import Mathlib.Data.Finset.Card
import Mathlib.Data.Fintype.Card
import Mathlib.Algebra.BigOperators.Group.Finset.Basic

/-! Shooting at a family of disjoint targets, each a nonempty finite set of
cells. Everything about a target is a function of the set of cells shot so far,
so the order of the shots and their repetition cannot matter. -/

namespace Targets

structure Family (Cell Index : Type*) where
  cells : Index → Finset Cell
  disjoint : ∀ first second, first ≠ second → Disjoint (cells first) (cells second)
  nonempty : ∀ index, (cells index).Nonempty

namespace Family

variable {Cell Index : Type*} (family : Family Cell Index) (shots : Finset Cell)

def Sunk (index : Index) : Prop := family.cells index ⊆ shots

def Covered (cell : Cell) : Prop := ∃ index, cell ∈ family.cells index

theorem owner_unique {family : Family Cell Index} {cell : Cell} {first second : Index}
    (inFirst : cell ∈ family.cells first) (inSecond : cell ∈ family.cells second) :
    first = second := by
  by_contra different
  exact Finset.disjoint_left.mp (family.disjoint first second different) inFirst inSecond

/-- Fewer cells than targets miss a target. -/
theorem exists_disjoint [Fintype Index] (family : Family Cell Index) {taken : Finset Cell}
    (few : taken.card < Fintype.card Index) : ∃ index, Disjoint (family.cells index) taken := by
  by_contra met
  simp only [Finset.not_disjoint_iff, not_exists] at met
  choose cell inside hit using met
  have injective : Function.Injective cell := by
    intro first second same
    exact owner_unique (inside first) (same ▸ inside second)
  have many : Fintype.card Index ≤ taken.card := by
    rw [← Finset.card_univ]
    exact Finset.card_le_card_of_injOn cell (fun index _ => hit index) injective.injOn
  omega

theorem not_sunk_of_unshot {family : Family Cell Index} {shots : Finset Cell} {cell : Cell}
    {index : Index} (inside : cell ∈ family.cells index) (unshot : cell ∉ shots) :
    ¬family.Sunk shots index :=
  fun sunk => unshot (sunk inside)

variable [DecidableEq Cell]

instance (index : Index) : Decidable (family.Sunk shots index) :=
  inferInstanceAs (Decidable (family.cells index ⊆ shots))

def hits (index : Index) : Nat := (family.cells index ∩ shots).card

def afloat [Fintype Index] : Finset Index :=
  Finset.univ.filter fun index => ¬family.Sunk shots index

theorem hits_le_card (index : Index) : family.hits shots index ≤ (family.cells index).card :=
  Finset.card_le_card Finset.inter_subset_left

variable {family shots}

theorem sunk_iff_hits (index : Index) :
    family.Sunk shots index ↔ family.hits shots index = (family.cells index).card := by
  constructor
  · intro sunk
    rw [hits, Finset.inter_eq_left.mpr sunk]
  · intro full
    have part : family.cells index ∩ shots ⊆ family.cells index := Finset.inter_subset_left
    have whole := Finset.eq_of_subset_of_card_le part full.ge
    exact Finset.inter_eq_left.mp whole

theorem hits_insert_of_mem {cell : Cell} {index : Index} (inside : cell ∈ family.cells index)
    (unshot : cell ∉ shots) :
    family.hits (insert cell shots) index = family.hits shots index + 1 := by
  rw [hits, Finset.inter_insert_of_mem inside, Finset.card_insert_of_notMem, hits]
  simp [unshot]

theorem hits_insert_of_notMem {cell : Cell} {index : Index}
    (outside : cell ∉ family.cells index) :
    family.hits (insert cell shots) index = family.hits shots index := by
  rw [hits, Finset.inter_insert_of_notMem outside, hits]

theorem sunk_insert_of_notMem {cell : Cell} {index : Index}
    (outside : cell ∉ family.cells index) :
    family.Sunk (insert cell shots) index ↔ family.Sunk shots index :=
  Finset.subset_insert_iff_of_notMem outside

theorem Sunk.insert {index : Index} (sunk : family.Sunk shots index) (cell : Cell) :
    family.Sunk (insert cell shots) index :=
  sunk.trans (Finset.subset_insert cell shots)

section Counting

variable [Fintype Index]

theorem mem_afloat (index : Index) : index ∈ family.afloat shots ↔ ¬family.Sunk shots index := by
  simp [afloat]

theorem afloat_insert_subset (family : Family Cell Index) (shots : Finset Cell) (cell : Cell) :
    family.afloat (insert cell shots) ⊆ family.afloat shots := by
  intro index
  rw [mem_afloat, mem_afloat]
  exact mt fun sunk => sunk.insert cell

theorem afloat_insert_of_uncovered {cell : Cell} (open_water : ¬family.Covered cell) :
    family.afloat (insert cell shots) = family.afloat shots := by
  ext index
  rw [mem_afloat, mem_afloat, sunk_insert_of_notMem]
  exact fun inside => open_water ⟨index, inside⟩

theorem afloat_insert_of_not_sunk {cell : Cell} {index : Index}
    (inside : cell ∈ family.cells index) (unshot : cell ∉ shots)
    (remains : ¬family.Sunk (insert cell shots) index) :
    family.afloat (insert cell shots) = family.afloat shots := by
  ext other
  rw [mem_afloat, mem_afloat]
  by_cases same : other = index
  · subst other
    simp [remains, not_sunk_of_unshot inside unshot]
  · rw [sunk_insert_of_notMem]
    exact fun also => same (owner_unique also inside)

theorem afloat_insert_of_sunk [DecidableEq Index] {cell : Cell} {index : Index}
    (inside : cell ∈ family.cells index) (sinks : family.Sunk (insert cell shots) index) :
    family.afloat (insert cell shots) = (family.afloat shots).erase index := by
  ext other
  rw [mem_afloat, Finset.mem_erase, mem_afloat]
  by_cases same : other = index
  · subst other
    simp [sinks]
  · rw [sunk_insert_of_notMem]
    · simp [same]
    · exact fun also => same (owner_unique also inside)

theorem card_afloat_insert_of_sunk {cell : Cell} {index : Index}
    (inside : cell ∈ family.cells index) (unshot : cell ∉ shots)
    (sinks : family.Sunk (insert cell shots) index) :
    (family.afloat (insert cell shots)).card + 1 = (family.afloat shots).card := by
  classical
  rw [afloat_insert_of_sunk inside sinks]
  apply Finset.card_erase_add_one
  exact (mem_afloat index).mpr (not_sunk_of_unshot inside unshot)

theorem afloat_empty_iff :
    family.afloat shots = ∅ ↔ ∀ cell, family.Covered cell → cell ∈ shots := by
  simp only [Finset.eq_empty_iff_forall_notMem, mem_afloat, not_not]
  constructor
  · rintro all cell ⟨index, inside⟩
    exact all index inside
  · intro all index cell inside
    exact all cell ⟨index, inside⟩

theorem afloat_none : family.afloat ∅ = Finset.univ := by
  ext index
  rw [mem_afloat]
  simp [Sunk, Finset.subset_empty, (family.nonempty index).ne_empty]

end Counting

end Family

end Targets
