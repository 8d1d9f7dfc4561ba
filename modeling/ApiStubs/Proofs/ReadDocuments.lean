import ApiStubs.Document.Source
import ApiStubs.Proofs.RouteList
import Mathlib.Data.List.Induction
import Mathlib.Data.List.Nodup

/-!
# Documents that are read

A document may be any value of its type. One that is read from a file is less: of a key that is
repeated only one entry is left, and the operations of a path are looked up method by method. So the
operations of a path come in the order of methods, and the routes of the document, which follow the
operations, have no method of a path twice.

## What is proved

* `PathItem.inOrder_of_pathItem?`: the operations of a path that is read.
* `Document.isListed_of_ofSource`: the paths of a document that is read.
* `Document.IsListed.endpoints_nodup`, `Document.IsListed.methods_sublist`: no method of a path has
  two endpoints, and the endpoints of a path are in the order of methods.
-/

namespace ApiStubs

/-! ### Tables -/

namespace Node

variable {α : Type}

/-- One more entry of a table. -/
theorem tabulate_concat (entries : List (String × α)) (e : String × α) : tabulate (entries ++ [e]) =
    if (tabulate entries).any (fun x => x.1 == e.1) then
      (tabulate entries).map fun x => if x.1 == e.1 then e else x
    else tabulate entries ++ [e] := by
  rw [tabulate, List.foldl_append]
  rfl

/-- A table has nothing that was not entered. -/
theorem mem_of_mem_tabulate {entries : List (String × α)} {x : String × α}
    (h : x ∈ tabulate entries) :
    x ∈ entries := by
  induction entries using List.reverseRecOn generalizing x with
  | nil => exact h
  | append_singleton entries e ih =>
    rw [tabulate_concat] at h
    rw [List.mem_append, List.mem_singleton]
    split at h
    · obtain ⟨y, hy, rfl⟩ := List.mem_map.mp h
      split
      · exact .inr rfl
      · exact .inl (ih hy)
    · rw [List.mem_append, List.mem_singleton] at h
      exact h.imp_left ih

/-- A table has one entry for a key. -/
theorem tabulate_nodup (entries : List (String × α)) : ((tabulate entries).map Prod.fst).Nodup := by
  induction entries using List.reverseRecOn with
  | nil => exact List.nodup_nil
  | append_singleton entries e ih =>
    rw [tabulate_concat]
    split
    · have keys : ((tabulate entries).map fun x => if x.1 == e.1 then e else x).map Prod.fst
          = (tabulate entries).map Prod.fst := by
        rw [List.map_map]
        refine List.map_congr_left fun x _ => ?_
        by_cases same : x.1 = e.1
        · simp [same]
        · simp [same]
      rw [keys]
      exact ih
    · next new =>
      rw [List.map_append, List.map_singleton, ← List.concat_eq_append]
      refine List.Nodup.concat (fun old => new ?_) ih
      obtain ⟨x, hx, same⟩ := List.mem_map.mp old
      exact List.any_eq_true.mpr ⟨x, hx, beq_iff_eq.mpr same⟩

end Node

/-! ### Path items -/

/-- The operations are in the order of methods, and there is one for a method at most. -/
def PathItem.InOrder (item : PathItem) : Prop :=
  (item.operations.map Prod.fst).Sublist Method.all

/-- What is read item by item. -/
theorem forall₂_of_mapM_some {α β : Type} {f : α → Option β} {as : List α} {bs : List β}
    (h : as.mapM f = some bs) :
    List.Forall₂ (fun a b => f a = some b) as bs := by
  induction as generalizing bs with
  | nil =>
    cases h
    exact .nil
  | cons a as ih =>
    rw [List.mapM_cons, Option.bind_eq_bind, Option.bind_eq_some_iff] at h
    obtain ⟨b, first, h⟩ := h
    obtain ⟨rest, others, h⟩ := Option.bind_eq_some_iff.mp h
    obtain rfl := Option.some.inj h
    exact .cons first (ih others)

/-- What is looked up for one key after the other is listed in the order of the keys. -/
theorem keys_of_mapM {κ α : Type} {look : κ → Option α} {keys : List κ} {found : List (κ × α)}
    (h : (keys.mapM fun key => (look key).map fun a => (key, a)) = some found) :
    keys = found.map Prod.fst := by
  have each :=
    (forall₂_of_mapM_some h).imp (S := fun key entry => key = entry.1) fun key entry here => by
      obtain ⟨a, -, rfl⟩ := Option.map_eq_some_iff.mp here
      rfl
  rw [← List.forall₂_map_right_iff, List.forall₂_eq_eq_eq] at each
  exact each

/-- Leaving out the keys for which nothing is there keeps the order. -/
theorem filterMap_sublist {κ α β : Type} (f : α → Option β) (entries : List (κ × α)) :
    ((entries.filterMap fun (key, a) => (f a).map (key, ·)).map Prod.fst).Sublist (entries.map Prod.fst) := by
  induction entries with
  | nil => exact .slnil
  | cons entry entries ih =>
    obtain ⟨key, a⟩ := entry
    rw [List.map_cons, List.filterMap_cons]
    dsimp only
    cases f a with
    | none => exact ih.cons key
    | some b => exact ih.cons_cons key

/-- **A path item that is read** lists its operations in the order of methods. -/
theorem PathItem.inOrder_of_pathItem? {depth : Nat} {n : Node} {item : PathItem}
    (h : Document.pathItem? depth n = some item) : item.InOrder := by
  cases depth with
  | zero =>
    rw [Document.pathItem?] at h
    cases h
  | succ depth =>
    rw [Document.pathItem?] at h
    simp only [Option.bind_eq_bind, Option.bind_eq_some_iff] at h
    obtain ⟨fields, -, -, -, operations, found, -, -, parameters, -, h⟩ := h
    obtain rfl := Option.some.inj h
    have sub := filterMap_sublist id operations
    rw [← keys_of_mapM found] at sub
    exact sub

/-! ### Documents -/

namespace Document

/-- No path is listed twice, and the operations of every path are in order. -/
structure IsListed (d : Document) : Prop where
  /-- The paths are different. -/
  paths : (d.paths.map Prod.fst).Nodup
  /-- The operations of a path are in order. -/
  inOrder : ∀ path item, (path, .item item) ∈ d.paths → item.InOrder

/-- A path item that is listed was read. -/
theorem inOrder_of_paths? {n : Node} {paths : List (String × RefOr PathItem)}
    (h : paths? n = some paths) {path : String} {item : PathItem}
    (listed : (path, .item item) ∈ paths) : item.InOrder := by
  unfold paths? at h
  simp only [Option.bind_eq_bind, Option.bind_eq_some_iff] at h
  obtain ⟨fields, -, items, found, h⟩ := h
  obtain rfl := Option.some.inj h
  have each := forall₂_of_mapM_some found
  obtain ⟨field, -, read⟩ :=
    (mem_of_forall₂ (fun _ _ => Option.some.inj) each).mp (Node.mem_of_mem_tabulate listed)
  obtain ⟨entry, outer, same⟩ := Option.map_eq_some_iff.mp read
  obtain ⟨-, rfl⟩ := Prod.mk.inj same
  unfold refOr? at outer
  split at outer
  · cases Option.some.inj outer
  · obtain ⟨item', inner, same⟩ := Option.map_eq_some_iff.mp outer
    obtain rfl := RefOr.item.inj same
    exact PathItem.inOrder_of_pathItem? inner

theorem paths_nodup_of_paths? {n : Node} {paths : List (String × RefOr PathItem)}
    (h : paths? n = some paths) :
    (paths.map Prod.fst).Nodup := by
  unfold paths? at h
  simp only [Option.bind_eq_bind, Option.bind_eq_some_iff] at h
  obtain ⟨fields, -, items, -, h⟩ := h
  obtain rfl := Option.some.inj h
  exact Node.tabulate_nodup items

theorem isListed_of_ofNode? {n : Node} {d : Document} (h : ofNode? n = some d) : d.IsListed := by
  unfold ofNode? at h
  simp only [Option.bind_eq_bind, Option.bind_eq_some_iff] at h
  obtain ⟨fields, -, openapi, -, info, -, -, -, paths, read, components, -, -, -, -, -, -, -, h⟩ := h
  obtain rfl := Option.some.inj h
  unfold Fields.required? at read
  simp only [Option.bind_eq_bind, Option.bind_eq_some_iff] at read
  obtain ⟨-, -, node, -, read⟩ := read
  exact ⟨paths_nodup_of_paths? read, fun path item listed => inOrder_of_paths? read listed⟩

/-- **A document that is read** lists no path twice, and the operations of a path in the order of
methods. -/
theorem isListed_of_ofSource {t : FileTree} {source : String} {d : Document}
    (h : ofSource t source = .ok d) :
    d.IsListed := by
  unfold ofSource at h
  split at h
  · cases h
  · unfold ofFile at h
    split at h
    · cases h
    · next text _ =>
      cases read : ofText? text with
      | none =>
        rw [read] at h
        cases h
      | some d' =>
        rw [read] at h
        obtain rfl := Except.ok.inj h
        unfold ofText? at read
        rcases Option.or_eq_some_iff.mp read with json | ⟨-, yaml⟩
        · obtain ⟨j, -, read⟩ := Option.bind_eq_some_iff.mp json
          exact isListed_of_ofNode? read
        · obtain ⟨n, -, read⟩ := Option.bind_eq_some_iff.mp yaml
          exact isListed_of_ofNode? read

/-! ### Endpoints -/

theorem path_of_mem_endpointsOf {entry : String × PathItem} {x : Endpoint}
    (h : x ∈ endpointsOf entry) :
    x.path = entry.1 := by
  obtain ⟨_, -, rfl⟩ := List.mem_map.mp h
  rfl

/-- The methods of the endpoints of a path are those of its operations. -/
theorem methods_endpointsOf (entry : String × PathItem) :
    (endpointsOf entry).map Endpoint.method = entry.2.operations.map Prod.fst := by
  rw [endpointsOf, List.map_map]
  rfl

namespace IsListed

variable {d : Document}

theorem inlinePaths_nodup (listed : d.IsListed) : (d.inlinePaths.map Prod.fst).Nodup :=
  (filterMap_sublist RefOr.item? d.paths).nodup listed.paths

theorem inOrder_of_mem (listed : d.IsListed) {path : String} {item : PathItem}
    (h : (path, item) ∈ d.inlinePaths) :
    item.InOrder := by
  obtain ⟨⟨path', entry⟩, he, found⟩ := List.mem_filterMap.mp h
  cases entry with
  | reference pointer => cases found
  | item item' =>
    cases found
    exact listed.inOrder path item he

/-- **No two endpoints** of a document that is read have one path and one method. -/
theorem endpoints_nodup (listed : d.IsListed) :
    (d.endpoints.map fun x => (x.path, x.method)).Nodup := by
  have apart : d.inlinePaths.Pairwise fun x y => x.1 ≠ y.1 :=
    List.pairwise_map.mp listed.inlinePaths_nodup
  rw [endpoints, List.map_flatMap, List.nodup_flatMap]
  constructor
  · intro entry he
    have methods : ((endpointsOf entry).map Endpoint.method).Nodup := by
      rw [methods_endpointsOf]
      exact (listed.inOrder_of_mem he).nodup (by decide)
    refine List.Nodup.of_map Prod.snd ?_
    rwa [List.map_map]
  · refine apart.imp fun {entry other} ne pair first second => ?_
    obtain ⟨x, hx, rfl⟩ := List.mem_map.mp first
    obtain ⟨y, hy, same⟩ := List.mem_map.mp second
    rw [path_of_mem_endpointsOf hx, path_of_mem_endpointsOf hy] at same
    exact ne (Prod.mk.inj same).1.symm

/-- **The endpoints of a path are in the order of methods.** -/
theorem methods_sublist (listed : d.IsListed) (path : String) :
    ((d.endpoints.filter fun x => x.path = path).map Endpoint.method).Sublist Method.all := by
  have inOrder : ∀ entry ∈ d.inlinePaths, entry.2.InOrder :=
    fun entry he => listed.inOrder_of_mem he
  have distinct := listed.inlinePaths_nodup
  unfold endpoints
  generalize d.inlinePaths = entries at inOrder distinct
  induction entries with
  | nil => exact List.nil_sublist _
  | cons entry entries ih =>
    rw [List.map_cons, List.nodup_cons] at distinct
    obtain ⟨here, later⟩ := List.forall_mem_cons.mp inOrder
    rw [List.flatMap_cons, List.filter_append, List.map_append]
    by_cases same : entry.1 = path
    · -- no later path is the same
      have all : (endpointsOf entry).filter (fun x => x.path = path) = endpointsOf entry :=
        List.filter_eq_self.mpr fun x hx => by simp [path_of_mem_endpointsOf hx, same]
      have none : (entries.flatMap endpointsOf).filter (fun x => x.path = path) = [] := by
        refine List.filter_eq_nil_iff.mpr fun x hx => ?_
        obtain ⟨other, ho, hx⟩ := List.mem_flatMap.mp hx
        rw [path_of_mem_endpointsOf hx, decide_eq_true_eq, ← same]
        exact fun again => distinct.1 (List.mem_map.mpr ⟨other, ho, again⟩)
      rw [all, none, methods_endpointsOf, List.map_nil, List.append_nil]
      exact here
    · have none : (endpointsOf entry).filter (fun x => x.path = path) = [] :=
        List.filter_eq_nil_iff.mpr fun x hx => by simp [path_of_mem_endpointsOf hx, same]
      rw [none, List.map_nil, List.nil_append]
      exact ih later distinct.2

end IsListed

end Document

end ApiStubs
