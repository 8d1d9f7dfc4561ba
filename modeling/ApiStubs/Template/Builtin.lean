import ApiStubs.TargetKind

/-!
# Built-in templates

For each kind there is a template for handlers, one for hydrators and one for the route table.
They are used when no directory of templates is found.
-/

namespace ApiStubs.Template

/-- The handler of a path as a Rust module. -/
def rustHandler : String :=
  "//! `\x7b\x7b className \x7d\x7d` in `\x7b\x7b namespace \x7d\x7d`, generated by stubforge.
//!
//! Regeneration leaves this file alone once it exists.

/// Handles\x7b% for method in operationMethods %\x7d `\x7b\x7b method \x7d\x7d`\x7b% if not loop.last %\x7d,\x7b% endif %\x7d\x7b% endfor %\x7d
#[derive(Debug, Default)]
pub struct \x7b\x7b className \x7d\x7d;

impl \x7b\x7b className \x7d\x7d \x7b
\x7b%- for method in operationMethods %\x7d
    /// `\x7b\x7b method \x7d\x7d` request
    pub fn \x7b\x7b method | lower \x7d\x7d(&self, request: serde_json::Value) -> Result<serde_json::Value, Box<dyn std::error::Error>> \x7b
        let _ = request;
        Err(\"\x7b\x7b className \x7d\x7d::\x7b\x7b method | lower \x7d\x7d is not implemented\".into())
    \x7d
\x7b% endfor -%\x7d
\x7d
"

/-- The hydrator of a schema as a Rust module. -/
def rustHydrator : String :=
  "//! `\x7b\x7b className \x7d\x7d` in `\x7b\x7b namespace \x7d\x7d`, generated by stubforge.

use \x7b\x7b modelNamespace \x7d\x7d::\x7b\x7b modelName \x7d\x7d;

/// Converts between JSON objects and [`\x7b\x7b modelName \x7d\x7d`].
///
/// Properties:
\x7b%- for property in properties %\x7d
/// - `\x7b\x7b property.name \x7d\x7d`: `\x7b\x7b property.type \x7d\x7d`\x7b% if property.required %\x7d (required)\x7b% endif %\x7d\x7b% if property.nullable %\x7d (nullable)\x7b% endif %\x7d
\x7b%- endfor %\x7d
#[derive(Debug, Default)]
pub struct \x7b\x7b className \x7d\x7d;

impl \x7b\x7b className \x7d\x7d \x7b
    /// Build a model from its JSON form
    pub fn hydrate(&self, data: serde_json::Value) -> serde_json::Result<\x7b\x7b modelName \x7d\x7d> \x7b
        serde_json::from_value(data)
    \x7d

    /// JSON form of a model
    pub fn extract(&self, model: &\x7b\x7b modelName \x7d\x7d) -> serde_json::Result<serde_json::Value> \x7b
        serde_json::to_value(model)
    \x7d
\x7d
"

/-- The route table as a Rust module. -/
def rustRoutes : String :=
  "//! Route table generated by stubforge.

/// One generated route
#[derive(Debug, Clone, Copy, PartialEq, Eq)]
pub struct Route \x7b
    pub method: &'static str,
    pub path: &'static str,
    pub middleware: &'static str,
    pub model_middleware: Option<&'static str>,
    pub name: Option<&'static str>,
\x7d

pub const ROUTES: &[Route] = &[
\x7b%- for route in routes %\x7d
    Route \x7b
        method: \"\x7b\x7b route.method \x7d\x7d\",
        path: \"\x7b\x7b route.path \x7d\x7d\",
        middleware: \"\x7b\x7b route.middleware \x7d\x7d\",
        model_middleware: \x7b% if route.modelMiddleware %\x7dSome(\"\x7b\x7b route.modelMiddleware \x7d\x7d\")\x7b% else %\x7dNone\x7b% endif %\x7d,
        name: \x7b% if route.name %\x7dSome(\"\x7b\x7b route.name \x7d\x7d\")\x7b% else %\x7dNone\x7b% endif %\x7d,
    \x7d,
\x7b%- endfor %\x7d
];
"

/-- The handler of a path as a PHP class. -/
def phpHandler : String :=
  "<?php

declare(strict_types=1);

namespace \x7b\x7b namespace \x7d\x7d;

use Psr\\Http\\Message\\ResponseInterface;
use Psr\\Http\\Message\\ServerRequestInterface;
use Psr\\Http\\Server\\RequestHandlerInterface;

/**
 * Handles\x7b% for method in operationMethods %\x7d \x7b\x7b method \x7d\x7d\x7b% if not loop.last %\x7d,\x7b% endif %\x7d\x7b% endfor %\x7d
 */
class \x7b\x7b className \x7d\x7d implements RequestHandlerInterface
\x7b
    public function handle(ServerRequestInterface $request): ResponseInterface
    \x7b
        switch ($request->getMethod()) \x7b
\x7b%- for method in operationMethods %\x7d
            case '\x7b\x7b method \x7d\x7d':
                throw new \\RuntimeException('\x7b\x7b className \x7d\x7d: \x7b\x7b method \x7d\x7d is not implemented');
\x7b%- endfor %\x7d
        \x7d

        throw new \\RuntimeException('\x7b\x7b className \x7d\x7d: method not allowed');
    \x7d
\x7d
"

/-- The hydrator of a schema as a PHP class. -/
def phpHydrator : String :=
  "<?php

declare(strict_types=1);

namespace \x7b\x7b namespace \x7d\x7d;

use \x7b\x7b modelNamespace \x7d\x7d\\\x7b\x7b modelName \x7d\x7d;

class \x7b\x7b className \x7d\x7d
\x7b
    public function hydrate(array $data, \x7b\x7b modelName \x7d\x7d $model): \x7b\x7b modelName \x7d\x7d
    \x7b
\x7b%- for property in properties %\x7d
        if (array_key_exists('\x7b\x7b property.name \x7d\x7d', $data)) \x7b
            $model->\x7b\x7b property.name \x7d\x7d = $data['\x7b\x7b property.name \x7d\x7d'];
        \x7d
\x7b%- endfor %\x7d

        return $model;
    \x7d

    public function extract(\x7b\x7b modelName \x7d\x7d $model): array
    \x7b
        return [
\x7b%- for property in properties %\x7d
            '\x7b\x7b property.name \x7d\x7d' => $model->\x7b\x7b property.name \x7d\x7d,
\x7b%- endfor %\x7d
        ];
    \x7d
\x7d
"

/-- The route table as a PHP file. -/
def phpRoutes : String :=
  "<?php

declare(strict_types=1);

return [
    'routes' => [
\x7b%- for route in routes %\x7d
        [
            'path' => '\x7b\x7b route.path \x7d\x7d',
            'middleware' => [
\x7b%- if route.modelMiddleware %\x7d
                \x7b\x7b route.modelMiddleware \x7d\x7d::class,
\x7b%- endif %\x7d
                \x7b\x7b route.middleware \x7d\x7d::class,
            ],
            'allowed_methods' => ['\x7b\x7b route.method \x7d\x7d'],
            'name' => \x7b% if route.name %\x7d'\x7b\x7b route.name \x7d\x7d'\x7b% else %\x7dnull\x7b% endif %\x7d,
        ],
\x7b%- endfor %\x7d
    ],
];
"

/-- The keys of the templates that every set has to hold. -/
def requiredKeys : List String := ["handler", "model-hydrator", "routes"]

/-- The built-in templates of a kind: file names and sources. -/
def builtinSources : TargetKind → List (String × String)
  | .rust => [("handler.tera", rustHandler), ("model-hydrator.tera", rustHydrator),
      ("routes.tera", rustRoutes)]
  | .php => [("handler.tera", phpHandler), ("model-hydrator.tera", phpHydrator),
      ("routes.tera", phpRoutes)]

end ApiStubs.Template
