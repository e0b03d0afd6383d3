import PartitionBoot.Proofs.Heap.Grants

/-!
Which address and page count name a grant. Where a grant ends is not stored: the lookup infers it
from the bits of the pages around it, and under `Records` it finds the recorded grants and nothing
else.
-/

namespace PartitionBoot

namespace PagePool

variable {pool : PagePool} {memory : Memory} {grants : List Grant}

structure Delimited (pool : PagePool) (memory : Memory) (index pages : Nat) : Prop where
  positive : 0 < pages
  inside : index + pages ≤ pool.total
  opens : pool.isHead memory index = true
  whole : ∀ page, index ≤ page → page < index + pages → pool.used memory page = true
  single : ∀ page, index < page → page < index + pages → pool.isHead memory page = false
  closes : index + pages = pool.total ∨ pool.used memory (index + pages) = false ∨
    pool.isHead memory (index + pages) = true

theorem grantIndex?_eq_some_iff (base pages index : Nat) :
    pool.grantIndex? memory base pages = some index ↔
      base = pool.address index ∧ pool.Delimited memory index pages := by
  have size : Page.size = 4096 := rfl
  simp only [grantIndex?, address_eq, Bool.or_eq_true, Bool.and_eq_true, decide_eq_true_eq,
    bne_iff_ne, List.all_eq_true, List.mem_range, Bool.not_eq_true', size]
  constructor
  · intro found
    split at found
    · cases found
    · rename_i accepted
      split at found
      · rename_i checked
        simp only [Option.some.injEq] at found
        obtain ⟨⟨⟨opens, whole⟩, single⟩, closes⟩ := checked
        simp only [found] at opens whole single closes accepted
        refine ⟨by omega, by omega, by omega, opens, ?_, ?_, ?_⟩
        · intro page lower upper
          have set := whole (page - index) (by omega)
          rwa [show index + (page - index) = page by omega] at set
        · intro page lower upper
          have unset := single (page - index - 1) (by omega)
          rwa [show index + 1 + (page - index - 1) = page by omega] at unset
        · rcases closes with (atEnd | unused) | head
          · exact Or.inl atEnd
          · exact Or.inr (Or.inl unused)
          · exact Or.inr (Or.inr head)
      · cases found
  · rintro ⟨rfl, positive, inside, opens, whole, single, closes⟩
    have place : (pool.first + 4096 * index - pool.first) / 4096 = index := by omega
    rw [if_neg (by omega), if_pos (by
      simp only [place]
      refine ⟨⟨⟨opens, ?_⟩, ?_⟩, ?_⟩
      · exact fun page bound => whole _ (by omega) (by omega)
      · exact fun page bound => single _ (by omega) (by omega)
      · rcases closes with atEnd | unused | head
        · exact Or.inl (Or.inl atEnd)
        · exact Or.inl (Or.inr unused)
        · exact Or.inr head), place]

namespace Records

theorem delimited_of_mem (records : pool.Records memory grants) (shape : pool.Shape)
    {index pages : Nat} (member : ⟨pool.address index, pages⟩ ∈ grants) :
    pool.Delimited memory index pages := by
  have slots := shape.total_le_slots
  obtain ⟨place, samePlace, positive, inside⟩ := records.placed _ member
  have sameIndex : index = place := address_inj samePlace
  subst place
  change 0 < pages at positive
  change index + pages ≤ pool.total at inside
  have mine (page : Nat) := covers_address pool index pages page
  refine ⟨positive, inside, ?_, ?_, ?_, ?_⟩
  · exact (records.heads index (by omega)).mpr ⟨_, member, rfl⟩
  · intro page lower upper
    exact (records.used page (by omega)).mpr ⟨_, member, (mine page).mpr ⟨lower, upper⟩⟩
  · intro page lower upper
    rw [← Bool.not_eq_true, records.heads page (by omega)]
    rintro ⟨other, otherMember, base⟩
    have size := records.positive otherMember
    have reaches : other.Covers (pool.address page) := by
      simp only [Grant.Covers, Grant.stop, Page.bytes, Page.size, base]
      omega
    have same := records.eq_of_covers otherMember member reaches ((mine page).mpr ⟨by omega, upper⟩)
    subst other
    exact absurd (address_inj base) (by omega)
  · by_cases atEnd : index + pages = pool.total
    · exact Or.inl atEnd
    · by_cases used : pool.used memory (index + pages) = true
      · -- A grant that covers the page behind this one has to start there.
        obtain ⟨other, otherMember, covers⟩ := (records.used _ (by omega)).mp used
        refine Or.inr (Or.inr ((records.heads _ (by omega)).mpr ⟨other, otherMember, ?_⟩))
        obtain ⟨start, base, _, _⟩ := records.placed other otherMember
        obtain ⟨_, count⟩ := other
        change _ = pool.address start at base
        subst base
        have differ : (⟨pool.address start, count⟩ : Grant) ≠ ⟨pool.address index, pages⟩ := by
          intro same
          rw [same, covers_address] at covers
          omega
        have apart := records.apart_of_ne otherMember member differ
        rw [apart_address] at apart
        rw [covers_address] at covers
        rw [show start = index + pages by omega]
      · exact Or.inr (Or.inl (by simpa using used))

theorem mem_of_delimited (records : pool.Records memory grants) (shape : pool.Shape)
    {index pages : Nat} (delimited : pool.Delimited memory index pages) :
    ⟨pool.address index, pages⟩ ∈ grants := by
  have slots := shape.total_le_slots
  have positive := delimited.positive
  have inside := delimited.inside
  obtain ⟨grant, member, base⟩ := (records.heads index (by omega)).mp delimited.opens
  obtain ⟨_, count⟩ := grant
  change _ = pool.address index at base
  subst base
  obtain ⟨place, samePlace, size, bound⟩ := records.placed _ member
  have sameIndex : index = place := address_inj samePlace
  subst place
  change 0 < count at size
  change index + count ≤ pool.total at bound
  have mine (page : Nat) := covers_address pool index count page
  -- Both ends are excluded: a shorter grant leaves a page in range that only another head could
  -- explain, a longer one leaves a page behind the range that is used and no head.
  have notShorter : ¬ count < pages := by
    intro shorter
    obtain ⟨other, otherMember, covers⟩ :=
      (records.used (index + count) (by omega)).mp (delimited.whole _ (by omega) (by omega))
    obtain ⟨start, otherBase, otherSize, _⟩ := records.placed other otherMember
    obtain ⟨_, length⟩ := other
    change _ = pool.address start at otherBase
    subst otherBase
    change 0 < length at otherSize
    rw [covers_address] at covers
    by_cases behind : index < start
    · have head := (records.heads start (by omega)).mpr ⟨_, otherMember, rfl⟩
      have apart := records.apart_of_ne otherMember member (by
        intro same
        have sameStart : start = index := address_inj (congrArg Grant.base same)
        omega)
      rw [apart_address] at apart
      rw [delimited.single start behind (by omega)] at head
      cases head
    · have same := records.eq_of_covers otherMember member
        ((covers_address pool start length index).mpr (by omega)) ((mine index).mpr (by omega))
      have sameCount : length = count := congrArg Grant.count same
      omega
  have notLonger : ¬ pages < count := by
    intro longer
    have covers := (mine (index + pages)).mpr (by omega)
    have used := (records.used (index + pages) (by omega)).mpr ⟨_, member, covers⟩
    rcases delimited.closes with atEnd | unused | head
    · omega
    · rw [used] at unused
      cases unused
    · have single := (records.delimited_of_mem shape member).single (index + pages)
        (by omega) (by omega)
      rw [single] at head
      cases head
  rwa [show pages = count by omega]

theorem grantIndex?_iff (records : pool.Records memory grants) (shape : pool.Shape)
    (base pages index : Nat) :
    pool.grantIndex? memory base pages = some index ↔
      base = pool.address index ∧ ⟨base, pages⟩ ∈ grants := by
  rw [grantIndex?_eq_some_iff]
  constructor
  · rintro ⟨rfl, delimited⟩
    exact ⟨rfl, records.mem_of_delimited shape delimited⟩
  · rintro ⟨rfl, member⟩
    exact ⟨rfl, records.delimited_of_mem shape member⟩

theorem grantIndex?_eq_none_iff (records : pool.Records memory grants) (shape : pool.Shape)
    (base pages : Nat) :
    pool.grantIndex? memory base pages = none ↔ ⟨base, pages⟩ ∉ grants := by
  constructor
  · intro absent member
    obtain ⟨index, place, _⟩ := records.placed _ member
    have found := (records.grantIndex?_iff shape base pages index).mpr ⟨place, member⟩
    rw [absent] at found
    cases found
  · intro absent
    cases found : pool.grantIndex? memory base pages with
    | none => rfl
    | some index => exact absurd ((records.grantIndex?_iff shape _ _ _).mp found).2 absent

end Records

end PagePool

end PartitionBoot
