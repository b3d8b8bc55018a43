import Mathlib.Data.String.Basic
import Repricing.Json.Basic

namespace Repricing.Json

mutual

/-- The document with the members of every object in ascending order of their keys. -/
def sorted : Json → Json
  | null => null
  | bool b => bool b
  | number n => number n
  | string s => string s
  | array items => array (sortedItems items)
  | object members => object (sortMembers (sortedMembers members))

def sortedItems : List Json → List Json
  | [] => []
  | item :: rest => sorted item :: sortedItems rest

def sortedMembers : List (String × Json) → List (String × Json)
  | [] => []
  | (key, value) :: rest => (key, sorted value) :: sortedMembers rest

end

variable {α : Type} {name : String}

theorem sortedItems_eq_map (items : List Json) : sortedItems items = items.map sorted := by
  induction items with
  | nil => simp [sortedItems]
  | cons item rest ih => simp [sortedItems, ih]

theorem map_fst_sortedMembers (members : List (String × Json)) :
    (sortedMembers members).map Prod.fst = members.map Prod.fst := by
  induction members with
  | nil => simp [sortedMembers]
  | cons m rest ih => simp [sortedMembers, ih]

theorem lookup_sortedMembers (members : List (String × Json)) :
    (sortedMembers members).lookup name = (members.lookup name).map sorted := by
  induction members with
  | nil => simp [sortedMembers]
  | cons m rest ih =>
    obtain ⟨key, value⟩ := m
    rw [sortedMembers, List.lookup_cons, List.lookup_cons, ih]
    cases name == key <;> rfl

theorem mem_of_lookup_eq_some {members : List (String × α)} {a : α} (h : members.lookup name = some a) :
    (name, a) ∈ members := by
  obtain ⟨front, back, rfl, -⟩ := List.lookup_eq_some_iff.mp h
  simp

theorem lookup_eq_none_of_not_mem {members : List (String × α)} (h : name ∉ members.map Prod.fst) :
    members.lookup name = none := by
  rw [List.lookup_eq_none_iff]
  intro m hm
  rw [bne_iff_ne]
  rintro rfl
  exact h (List.mem_map_of_mem hm)

/-- Members that are inserted one by one are found, in front of those that were there. -/
theorem lookup_foldl_insertMember {members : List (String × α)} (h : (members.map Prod.fst).Nodup)
    (start : List (String × α)) :
    (members.foldl (fun sorted m => insertMember m.1 m.2 sorted) start).lookup name =
      (members.lookup name).or (start.lookup name) := by
  induction members generalizing start with
  | nil => rfl
  | cons m rest ih =>
    obtain ⟨hm, hrest⟩ := List.nodup_cons.mp h
    rw [List.foldl_cons, ih hrest, List.lookup_cons]
    by_cases hname : name = m.1
    · subst hname
      simp [lookup_eq_none_of_not_mem hm, lookup_insertMember_self]
    · simp [beq_eq_false_iff_ne.mpr hname, lookup_insertMember_of_ne m.2 start hname]

theorem lookup_sortMembers {members : List (String × α)} (h : (members.map Prod.fst).Nodup) :
    (sortMembers members).lookup name = members.lookup name := by
  rw [sortMembers, lookup_foldl_insertMember h]
  simp

section Ascending

variable {key : String} {value : α} {members : List (String × α)}

/-- The members stand in ascending order of their keys, and no key stands twice. -/
def Ascending (members : List (String × α)) : Prop := members.Pairwise fun m m' => m.1 < m'.1

theorem mem_of_mem_insertMember {m : String × α} (h : m ∈ insertMember key value members) :
    m = (key, value) ∨ m ∈ members := by
  fun_induction insertMember key value members with
  | case1 => exact .inl (List.mem_singleton.mp h)
  | case2 v rest => exact (List.mem_cons.mp h).imp_right (List.mem_cons_of_mem _)
  | case3 k v rest => exact List.mem_cons.mp h
  | case4 k v rest hne hlt ih =>
    rcases List.mem_cons.mp h with rfl | h
    · exact .inr List.mem_cons_self
    · exact (ih h).imp_right (List.mem_cons_of_mem _)

theorem Ascending.insertMember (h : Ascending members) : Ascending (insertMember key value members) := by
  fun_induction Json.insertMember key value members with
  | case1 => exact List.pairwise_singleton _ _
  | case2 v rest =>
    obtain ⟨hhead, hrest⟩ := List.pairwise_cons.mp h
    exact List.pairwise_cons.mpr ⟨hhead, hrest⟩
  | case3 k v rest hne hlt =>
    refine List.pairwise_cons.mpr ⟨List.forall_mem_cons.mpr ⟨hlt, fun m hm => ?_⟩, h⟩
    exact hlt.trans ((List.pairwise_cons.mp h).1 m hm)
  | case4 k v rest hne hlt ih =>
    obtain ⟨hhead, hrest⟩ := List.pairwise_cons.mp h
    refine List.pairwise_cons.mpr ⟨fun m hm => ?_, ih hrest⟩
    rcases mem_of_mem_insertMember hm with rfl | hm
    · exact lt_of_le_of_ne (not_lt.mp hlt) (Ne.symm hne)
    · exact hhead m hm

theorem Ascending.nodup (h : Ascending members) : (members.map Prod.fst).Nodup :=
  List.pairwise_map.mpr (h.imp ne_of_lt)

theorem ascending_sortMembers (members : List (String × α)) : Ascending (sortMembers members) :=
  List.foldlRecOn members _ .nil fun _ h _ _ => h.insertMember

theorem sortMembers_subset (members : List (String × α)) : sortMembers members ⊆ members := by
  refine List.foldlRecOn (motive := (· ⊆ members)) members _ (List.nil_subset _) ?_
  intro sorted hsorted m hm m' hm'
  rcases mem_of_mem_insertMember hm' with rfl | hm'
  · exact hm
  · exact hsorted hm'

end Ascending

/-- No object of the document has a key twice, at any depth. -/
inductive KeysDistinct : Json → Prop
  | null : KeysDistinct null
  | bool (b : Bool) : KeysDistinct (bool b)
  | number (n : Number) : KeysDistinct (number n)
  | string (s : String) : KeysDistinct (string s)
  | array {items : List Json} (h : ∀ item ∈ items, KeysDistinct item) : KeysDistinct (array items)
  | object {members : List (String × Json)} (hkeys : (members.map Prod.fst).Nodup)
      (h : ∀ m ∈ members, KeysDistinct m.2) : KeysDistinct (object members)

mutual

theorem keysDistinct_sorted : ∀ document : Json, document.sorted.KeysDistinct
  | null => by
    rw [sorted]
    exact .null
  | bool b => by
    rw [sorted]
    exact .bool b
  | number n => by
    rw [sorted]
    exact .number n
  | string s => by
    rw [sorted]
    exact .string s
  | array items => by
    rw [sorted]
    exact .array (keysDistinct_sortedItems items)
  | object members => by
    rw [sorted]
    exact .object (ascending_sortMembers _).nodup fun m hm =>
      keysDistinct_sortedMembers members m (sortMembers_subset _ hm)

theorem keysDistinct_sortedItems : ∀ items : List Json, ∀ item ∈ sortedItems items, item.KeysDistinct
  | [] => by simp [sortedItems]
  | item :: rest => by
    rw [sortedItems]
    exact List.forall_mem_cons.mpr ⟨keysDistinct_sorted item, keysDistinct_sortedItems rest⟩

theorem keysDistinct_sortedMembers :
    ∀ members : List (String × Json), ∀ m ∈ sortedMembers members, m.2.KeysDistinct
  | [] => by simp [sortedMembers]
  | (key, value) :: rest => by
    rw [sortedMembers]
    exact List.forall_mem_cons.mpr ⟨keysDistinct_sorted value, keysDistinct_sortedMembers rest⟩

end

end Repricing.Json
