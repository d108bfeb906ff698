import Std.Data.ExtTreeMap
import Mathlib.Data.List.Basic
import Mathlib.Logic.Function.Basic

/-! Finite tables that are iterated in the order of their keys, as `std::map`
is, with their lookup rules stated for equality of keys. -/

open Std

abbrev Table (Key Value : Type) [Ord Key] : Type := ExtTreeMap Key Value compare

namespace Table

variable {Key Value : Type} [Ord Key] [TransOrd Key] [LawfulEqOrd Key]

theorem lookup_filter (table : Table Key Value) (test : Key → Value → Bool) (key : Key) :
    (table.filter test)[key]? = table[key]?.filter (test key) :=
  ExtTreeMap.getElem?_filter'

section Lookup

variable [DecidableEq Key] (table : Table Key Value)

theorem lookup_insert (key other : Key) (value : Value) :
    (table.insert key value)[other]? = if key = other then some value else table[other]? := by
  simp [ExtTreeMap.getElem?_insert]

theorem lookup_insert_ne {key other : Key} (value : Value) (different : key ≠ other) :
    (table.insert key value)[other]? = table[other]? := by
  rw [lookup_insert, if_neg different]

theorem lookup_erase (key other : Key) :
    (table.erase key)[other]? = if key = other then none else table[other]? := by
  simp [ExtTreeMap.getElem?_erase]

theorem lookup_erase_ne {key other : Key} (different : key ≠ other) :
    (table.erase key)[other]? = table[other]? := by
  rw [lookup_erase, if_neg different]

theorem lookup_modify (key other : Key) (change : Value → Value) :
    (table.modify key change)[other]? =
      if key = other then table[other]?.map change else table[other]? := by
  rw [ExtTreeMap.getElem?_modify]
  by_cases same : key = other
  · simp [same]
  · simp [same]

theorem lookup_eraseAll (keys : List Key) (key : Key) :
    (keys.foldl (fun table key => table.erase key) table)[key]? =
      if key ∈ keys then none else table[key]? := by
  induction keys generalizing table with
  | nil => simp
  | cons first keys ih =>
      rw [List.foldl_cons, ih, lookup_erase]
      by_cases same : first = key
      · simp [same]
      · simp [same, Ne.symm same]

section Reading

variable {Reading : Type*} (read : Option Value → Reading) (key : Key)

/-- What is read of every key changes at one key when the table does. -/
theorem read_insert (value : Value) : (fun other => read (table.insert key value)[other]?) =
    Function.update (fun other => read table[other]?) key (read (some value)) := by
  funext other
  rw [Function.update_apply, lookup_insert]
  by_cases same : key = other
  · rw [if_pos same, if_pos same.symm]
  · rw [if_neg same, if_neg (Ne.symm same)]

theorem read_erase : (fun other => read (table.erase key)[other]?) =
    Function.update (fun other => read table[other]?) key (read none) := by
  funext other
  rw [Function.update_apply, lookup_erase]
  by_cases same : key = other
  · rw [if_pos same, if_pos same.symm]
  · rw [if_neg same, if_neg (Ne.symm same)]

theorem read_modify (change : Value → Value) :
    (fun other => read (table.modify key change)[other]?) =
      Function.update (fun other => read table[other]?) key (read (table[key]?.map change)) := by
  funext other
  rw [Function.update_apply, lookup_modify]
  by_cases same : key = other
  · rw [if_pos same, if_pos same.symm, same]
  · rw [if_neg same, if_neg (Ne.symm same)]

end Reading

theorem insert_insert (key : Key) (first second : Value) :
    (table.insert key first).insert key second = table.insert key second := by
  apply ExtTreeMap.ext_getElem?
  intro other
  simp only [lookup_insert]
  split <;> rfl

theorem erase_insert (key : Key) (value : Value) :
    (table.insert key value).erase key = table.erase key := by
  apply ExtTreeMap.ext_getElem?
  intro other
  simp only [lookup_erase, lookup_insert]
  split <;> rfl

section Absent

variable {table} {key : Key} (absent : table[key]? = none)

include absent

theorem erase_absent : table.erase key = table := by
  apply ExtTreeMap.ext_getElem?
  intro other
  rw [lookup_erase]
  split
  next same => rw [← same, absent]
  · rfl

theorem modify_absent (change : Value → Value) : table.modify key change = table := by
  apply ExtTreeMap.ext_getElem?
  intro other
  rw [lookup_modify]
  split
  next same => rw [← same, absent, Option.map_none]
  · rfl

end Absent

end Lookup

def keysWhere (table : Table Key Value) (test : Value → Bool) : List Key :=
  (table.toList.filter fun entry => test entry.2).map Prod.fst

theorem mem_keysWhere {table : Table Key Value} {test : Value → Bool} {key : Key} :
    key ∈ table.keysWhere test ↔ ∃ value, table[key]? = some value ∧ test value = true := by
  simp [keysWhere, ExtTreeMap.mem_toList_iff_getElem?_eq_some]

theorem keysWhere_nodup (table : Table Key Value) (test : Value → Bool) :
    (table.keysWhere test).Nodup := by
  have distinct := ExtTreeMap.distinct_keys_toList (t := table)
  have kept := distinct.filter fun entry => test entry.2
  rw [keysWhere, List.nodup_iff_pairwise_ne, List.pairwise_map]
  refine kept.imp fun {first second} differ same => differ ?_
  rw [same]
  exact ReflCmp.compare_self

theorem filter_toList_key [DecidableEq Key] (table : Table Key Value) (key : Key) :
    table.toList.filter (fun entry => entry.1 = key) =
      (table[key]?.map fun value => (key, value)).toList := by
  have distinct : table.toList.Nodup := by
    refine List.Pairwise.imp ?_ (ExtTreeMap.distinct_keys_toList (t := table))
    rintro first second differ rfl
    exact differ ReflCmp.compare_self
  cases known : table[key]? with
  | none =>
      rw [Option.map_none, Option.toList_none, List.filter_eq_nil_iff]
      rintro ⟨other, value⟩ member
      rw [ExtTreeMap.mem_toList_iff_getElem?_eq_some] at member
      rw [decide_eq_true_eq]
      rintro rfl
      rw [known] at member
      cases member
  | some value =>
      rw [Option.map_some, Option.toList_some, ← List.perm_singleton,
        List.perm_ext_iff_of_nodup (distinct.filter _) (by simp)]
      rintro ⟨other, found⟩
      rw [List.mem_filter, ExtTreeMap.mem_toList_iff_getElem?_eq_some, decide_eq_true_eq,
        List.mem_singleton, Prod.mk.injEq]
      constructor
      · rintro ⟨member, rfl⟩
        rw [known, Option.some.injEq] at member
        exact ⟨rfl, member.symm⟩
      · rintro ⟨rfl, rfl⟩
        exact ⟨known, rfl⟩

end Table
