import PartitionBoot.Memory.Contents
import PartitionBoot.Proofs.Image.Journal
import PartitionBoot.Proofs.Span
import PartitionBoot.Proofs.Volume.Layout

/-!
The permissions that a load leaves on pages. Changes of a range make one word of the word of its
first page, so a section that shares no page with another one has in the end what its own changes
made of it, and so has the header page behind a move.
-/

namespace PartitionBoot

variable {σ ρ : Type}

namespace PermissionChange

def applyAll (changes : List PermissionChange) (word : AttributeWord) : AttributeWord :=
  changes.foldl (fun current change => change.apply current) word

def ofHeader : List PermissionChange := [.setNoExec, .clearReadOnly, .setReadOnly]

theorem access_last (changes : List PermissionChange) {last : PermissionChange}
    (access : last.subject = .dataAccess) (word : AttributeWord) :
    (applyAll (changes ++ [last]) word).field .dataAccess = last.wanted.bits := by
  rw [applyAll, List.foldl_append, ← access]
  exact last.subject_apply _

theorem execution_kept {changes : List PermissionChange}
    (access : ∀ change ∈ changes, change.spared = .nonExecutable) (word : AttributeWord) :
    (applyAll changes word).field .nonExecutable = word.field .nonExecutable := by
  induction changes generalizing word with
  | nil => rfl
  | cons change rest ih =>
      refine (ih (fun later member => access later (List.mem_cons_of_mem _ member)) _).trans ?_
      rw [← access change List.mem_cons_self]
      exact change.spared_apply word

theorem execution_first {changes : List PermissionChange}
    (access : ∀ change ∈ changes, change.spared = .nonExecutable) (word : AttributeWord) :
    (applyAll (.setNoExec :: changes) word).field .nonExecutable =
      AttributeWord.nonExecutable.bits :=
  (execution_kept access _).trans (subject_apply .setNoExec word)

end PermissionChange

namespace PageKeeper

variable (keeper : PageKeeper σ)

def Writable (state : σ) (page : Nat) : Prop :=
  (keeper.word state page).field .dataAccess = AttributeWord.readWrite.bits

def NoExec (state : σ) (page : Nat) : Prop :=
  (keeper.word state page).field .nonExecutable = AttributeWord.nonExecutable.bits

variable {keeper} {base length : UInt64} {state reached : σ}

theorem spans_first {count : UInt64} {page : Nat} (spanned : keeper.Spans base count page) :
    keeper.Spans base count (keeper.page base) := by
  obtain ⟨index, bound, _⟩ := spanned
  exact ⟨0, by omega, by simp⟩

theorem grants_each {changes : List PermissionChange} (some : changes ≠ [])
    (granted : keeper.conduit.permissions.Grants (PermissionRequest.each changes base length)
      state reached) (page : Nat) :
    (keeper.Spans base (Page.count length) page → keeper.word reached page =
        PermissionChange.applyAll changes (keeper.word state (keeper.page base))) ∧
      (¬ keeper.Spans base (Page.count length) page →
        keeper.word reached page = keeper.word state page) := by
  induction changes generalizing state with
  | nil => exact absurd rfl some
  | cons change rest ih =>
      obtain ⟨middle, made, later⟩ := granted
      rcases rest with _ | ⟨next, rest⟩
      · cases later
        exact update_ok made page
      obtain ⟨inside, outside⟩ := ih (by simp) later
      constructor
      · intro spanned
        rw [inside spanned, (update_ok made _).1 (spans_first spanned)]
        rfl
      · intro apart
        rw [outside apart, (update_ok made page).2 apart]

end PageKeeper

theorem ImageSection.changes_ne_nil (entry : ImageSection) : entry.changes ≠ [] := by
  rw [changes]
  split
  · simp
  · split <;> simp

namespace Image

variable {keeper : PageKeeper σ} {layout : ImageLayout} {sections : List ImageSection}
  {state reached : σ}

/-- Sections of which no two are over one page keep what their own changes make of the word that
their first page had, and all other pages keep their words. -/
theorem grants_sections
    (apart : sections.Pairwise fun left right => ∀ page,
      SectionOver keeper layout left page → ¬ SectionOver keeper layout right page)
    (addressed : layout.Addresses sections)
    (granted : keeper.conduit.permissions.Grants (layout.requests sections) state reached)
    (page : Nat) :
    (∀ entry ∈ sections, ∀ base, layout.addressOf? entry.rva = some base → entry.size ≠ 0 →
        keeper.Spans base (Page.count entry.size.toUInt64) page →
        keeper.word reached page =
          PermissionChange.applyAll entry.changes (keeper.word state (keeper.page base))) ∧
      ((∀ entry ∈ sections, ¬ SectionOver keeper layout entry page) →
        keeper.word reached page = keeper.word state page) := by
  induction sections generalizing state with
  | nil =>
      cases granted
      simp
  | cons entry rest ih =>
      obtain ⟨front, apart⟩ := List.pairwise_cons.mp apart
      by_cases empty : entry.size = 0
      · rw [ImageLayout.requests_cons_empty empty] at granted
        obtain ⟨inside, outside⟩ :=
          ih apart ((ImageLayout.addresses_cons_empty empty).mp addressed) granted
        constructor
        · intro later member base placed sized spanned
          rcases List.mem_cons.mp member with rfl | old
          · exact absurd empty sized
          · exact inside later old base placed sized spanned
        · intro clear
          exact outside fun later member => clear later (List.mem_cons_of_mem _ member)
      obtain ⟨base, place⟩ := Option.isSome_iff_exists.mp
        (addressed entry List.mem_cons_self empty)
      rw [ImageLayout.requests_cons empty place] at granted
      obtain ⟨middle, own, granted⟩ := PagePermissions.grants_append.mp granted
      obtain ⟨inside, outside⟩ := ih apart ((ImageLayout.addresses_cons place).mp addressed) granted
      have changed := PageKeeper.grants_each entry.changes_ne_nil own
      have meets (page : Nat) : SectionOver keeper layout entry page ↔
          keeper.Spans base (Page.count entry.size.toUInt64) page :=
        sectionOver_iff empty place page
      constructor
      · intro later member other placed sized spanned
        rcases List.mem_cons.mp member with rfl | old
        · cases place.symm.trans placed
          rw [outside fun next listed => front next listed page ((meets page).mpr spanned),
            (changed page).1 spanned]
        · -- The first page of a later section is still as it was.
          have first : ¬ SectionOver keeper layout entry (keeper.page other) := fun held =>
            front later old _ held ⟨sized, other, placed, PageKeeper.spans_first spanned⟩
          rw [inside later old other placed sized spanned,
            (changed _).2 fun held => first ((meets _).mpr held)]
      · intro clear
        rw [outside fun next listed => clear next (List.mem_cons_of_mem _ listed),
          (changed page).2 fun held => clear entry List.mem_cons_self ((meets page).mpr held)]

end Image

namespace Survey

variable (keeper : PageKeeper σ) (found : Survey) (headerPageSize : UInt64)

/-- All that a load asks for, which includes the changes of the header page if it moves the
image. -/
def requests (relocated : Bool) : List PermissionRequest :=
  found.sectionRequests ++
    if relocated then found.headerRequests headerPageSize PermissionChange.ofHeader else []

def Holds (entry : ImageSection) (page : Nat) : Prop :=
  ∃ base, found.layout.addressOf? entry.rva = some base ∧
    keeper.Overlaps base entry.size.toUInt64 page

def HoldsHeader (page : Nat) : Prop := keeper.Overlaps found.layout.trueBase headerPageSize page

/-- All sections begin at pages, and no page holds bytes of two sections or, when the image is
moved, of a section and the headers. -/
structure Orderly (relocated : Bool) : Prop where
  aligned : ∀ entry ∈ found.sections, entry.size ≠ 0 →
    ∀ base, found.layout.addressOf? entry.rva = some base → base.toNat % Page.size = 0
  apart : found.sections.Pairwise fun left right => ∀ page,
    found.Holds keeper left page → ¬ found.Holds keeper right page
  headerAligned : relocated → found.layout.trueBase.toNat % Page.size = 0
  headerApart : relocated → ∀ entry ∈ found.sections, ∀ page,
    found.HoldsHeader keeper headerPageSize page → ¬ found.Holds keeper entry page

/-- What a load leaves on the pages of an image, and that it leaves all other pages alone. -/
structure Protected (relocated : Bool) (initial final : σ) : Prop where
  code : ∀ entry ∈ found.sections, entry.isCode →
    ∀ base, found.layout.addressOf? entry.rva = some base →
      ∀ page, keeper.Overlaps base entry.size.toUInt64 page → keeper.ReadOnly final page ∧
        (keeper.word final page).field .nonExecutable =
          (keeper.word initial (keeper.page base)).field .nonExecutable
  data : ∀ entry ∈ found.sections, ¬ entry.isCode → entry.isWritable →
    ∀ page, found.Holds keeper entry page → keeper.Writable final page ∧ keeper.NoExec final page
  constants : ∀ entry ∈ found.sections, ¬ entry.isCode → ¬ entry.isWritable →
    ∀ page, found.Holds keeper entry page → keeper.ReadOnly final page ∧ keeper.NoExec final page
  header : relocated → ∀ page, found.HoldsHeader keeper headerPageSize page →
    keeper.ReadOnly final page ∧ keeper.NoExec final page
  others : ∀ page, (∀ entry ∈ found.sections, ¬ found.Holds keeper entry page) →
    (relocated → ¬ found.HoldsHeader keeper headerPageSize page) →
      keeper.word final page = keeper.word initial page

variable {keeper found headerPageSize} {relocated : Bool} {initial final : σ}

theorem Orderly.spans_of_overlaps (orderly : found.Orderly keeper headerPageSize relocated)
    {entry : ImageSection} (member : entry ∈ found.sections) {base : UInt64}
    (placed : found.layout.addressOf? entry.rva = some base) {page : Nat}
    (held : keeper.Overlaps base entry.size.toUInt64 page) :
    entry.size ≠ 0 ∧ keeper.Spans base (Page.count entry.size.toUInt64) page := by
  have sized : entry.size ≠ 0 := by
    intro empty
    obtain ⟨offset, bound, _⟩ := held
    rw [empty] at bound
    exact absurd bound (by simp)
  exact ⟨sized, (PageKeeper.overlaps_iff_spans
    (orderly.aligned entry member sized base placed) page).mp held⟩

theorem Orderly.holds_iff (orderly : found.Orderly keeper headerPageSize relocated)
    {entry : ImageSection} (member : entry ∈ found.sections) (page : Nat) :
    found.Holds keeper entry page ↔ Image.SectionOver keeper found.layout entry page := by
  constructor
  · rintro ⟨base, placed, held⟩
    obtain ⟨sized, spanned⟩ := orderly.spans_of_overlaps member placed held
    exact ⟨sized, base, placed, spanned⟩
  · rintro ⟨sized, base, placed, spanned⟩
    exact ⟨base, placed, (PageKeeper.overlaps_iff_spans
      (orderly.aligned entry member sized base placed) page).mpr spanned⟩

theorem Orderly.sections_apart (orderly : found.Orderly keeper headerPageSize relocated) :
    found.sections.Pairwise fun left right => ∀ page,
      Image.SectionOver keeper found.layout left page →
        ¬ Image.SectionOver keeper found.layout right page := by
  refine orderly.apart.imp_of_mem ?_
  intro left right leftMember rightMember apart page held
  rw [← orderly.holds_iff rightMember]
  exact apart page ((orderly.holds_iff leftMember page).mpr held)

theorem grants_requests (orderly : found.Orderly keeper headerPageSize relocated)
    (addressed : found.Addressed)
    (granted : keeper.conduit.permissions.Grants (found.requests headerPageSize relocated)
      initial final) :
    (∀ entry ∈ found.sections, ∀ base, found.layout.addressOf? entry.rva = some base →
        ∀ page, keeper.Overlaps base entry.size.toUInt64 page → keeper.word final page =
          PermissionChange.applyAll entry.changes (keeper.word initial (keeper.page base))) ∧
      (relocated → ∀ page, found.HoldsHeader keeper headerPageSize page →
        ∃ word, keeper.word final page =
          PermissionChange.applyAll PermissionChange.ofHeader word) ∧
      ∀ page, (∀ entry ∈ found.sections, ¬ found.Holds keeper entry page) →
        (relocated → ¬ found.HoldsHeader keeper headerPageSize page) →
          keeper.word final page = keeper.word initial page := by
  obtain ⟨middle, sections, header⟩ := PagePermissions.grants_append.mp granted
  have spans (moved : relocated) (page : Nat) : found.HoldsHeader keeper headerPageSize page ↔
      keeper.Spans found.layout.trueBase (Page.count headerPageSize) page :=
    PageKeeper.overlaps_iff_spans (orderly.headerAligned moved) page
  -- The header changes the pages that it holds, if the image was moved, and no others.
  have inside (moved : relocated) (page : Nat)
      (held : found.HoldsHeader keeper headerPageSize page) : ∃ word,
        keeper.word final page = PermissionChange.applyAll PermissionChange.ofHeader word := by
    rw [if_pos moved] at header
    exact ⟨_, (PageKeeper.grants_each (by decide) header page).1 ((spans moved page).mp held)⟩
  have outside (page : Nat) (clear : relocated → ¬ found.HoldsHeader keeper headerPageSize page) :
      keeper.word final page = keeper.word middle page := by
    by_cases moved : relocated
    · rw [if_pos moved] at header
      exact (PageKeeper.grants_each (by decide) header page).2 fun spanned =>
        clear moved ((spans moved page).mpr spanned)
    · rw [if_neg moved] at header
      rw [header]
  have own := Image.grants_sections orderly.sections_apart addressed sections
  refine ⟨?_, inside, ?_⟩
  · intro entry member base placed page held
    obtain ⟨sized, spanned⟩ := orderly.spans_of_overlaps member placed held
    rw [outside page fun moved header => orderly.headerApart moved entry member page header
      ⟨base, placed, held⟩]
    exact (own page).1 entry member base placed sized spanned
  · intro page clear away
    rw [outside page away]
    exact (own page).2 fun entry member meets =>
      clear entry member ((orderly.holds_iff member page).mpr meets)

theorem protected_of_grants (orderly : found.Orderly keeper headerPageSize relocated)
    (addressed : found.Addressed)
    (granted : keeper.conduit.permissions.Grants (found.requests headerPageSize relocated)
      initial final) : found.Protected keeper headerPageSize relocated initial final := by
  obtain ⟨own, header, others⟩ := grants_requests orderly addressed granted
  refine ⟨?_, ?_, ?_, ?_, others⟩
  · intro entry member code base placed page held
    have changes : entry.changes = [.setReadOnly] := by rw [ImageSection.changes, if_pos code]
    rw [PageKeeper.ReadOnly, own entry member base placed page held, changes]
    exact ⟨PermissionChange.access_last [] rfl _, PermissionChange.execution_kept (by decide) _⟩
  · rintro entry member code writable page ⟨base, placed, held⟩
    have changes : entry.changes = [.setNoExec, .clearReadOnly] := by
      rw [ImageSection.changes, if_neg code, if_pos writable]
    rw [PageKeeper.Writable, PageKeeper.NoExec, own entry member base placed page held, changes]
    exact ⟨PermissionChange.access_last [.setNoExec] rfl _,
      PermissionChange.execution_first (by decide) _⟩
  · rintro entry member code constant page ⟨base, placed, held⟩
    have changes : entry.changes = [.setNoExec, .setReadOnly] := by
      rw [ImageSection.changes, if_neg code, if_neg constant]
    rw [PageKeeper.ReadOnly, PageKeeper.NoExec, own entry member base placed page held, changes]
    exact ⟨PermissionChange.access_last [.setNoExec] rfl _,
      PermissionChange.execution_first (by decide) _⟩
  · intro moved page held
    obtain ⟨word, stored⟩ := header moved page held
    rw [PageKeeper.ReadOnly, PageKeeper.NoExec, stored]
    exact ⟨PermissionChange.access_last [.setNoExec, .clearReadOnly] rfl _,
      PermissionChange.execution_first (by decide) _⟩

end Survey

def ImageSection.span (entry : ImageSection) (start : Nat) : Span :=
  ⟨start + entry.rva.toNat, start + entry.rva.toNat + entry.size.toNat⟩

namespace PageTable

theorem overlaps_covers {base length : UInt64} {place : Nat}
    (aligned : base.toNat % Page.size = 0) (fits : base.toNat + length.toNat ≤ UInt64.size)
    (held : keeper.Overlaps base length place) :
    Span.Covers ⟨base.toNat, base.toNat + length.toNat⟩ place := by
  obtain ⟨offset, bound, same⟩ := held
  rw [Page.start_add aligned] at same
  have number : (base + UInt64.ofNat (offset / Page.size * Page.size)).toNat = place := same
  have size : Page.size = 4096 := rfl
  have limit : UInt64.size = 18446744073709551616 := rfl
  simp only [UInt64.toNat_add, UInt64.toNat_ofNat', size] at number
  simp only [Span.Covers]
  omega

variable {found : Survey} {start : Nat} {listed : List ImageSection} {headerPageSize : UInt64}

theorem holds_covers {entry : ImageSection} {page : Nat}
    (base : found.layout.trueBase.toNat = start)
    (aligned : start % Page.size = 0 ∧ entry.rva.toNat % Page.size = 0)
    (fits : (entry.span start).stop ≤ UInt64.size) (held : found.Holds keeper entry page) :
    (entry.span start).Covers page := by
  obtain ⟨address, placed, held⟩ := held
  have place : address.toNat = start + entry.rva.toNat := by
    rw [← ImageLayout.addressOf?_eq_some_iff.mp placed, base]
  have covers := overlaps_covers (by
    rw [place]
    exact Nat.mod_eq_zero_of_dvd (Nat.dvd_add (Nat.dvd_of_mod_eq_zero aligned.1)
      (Nat.dvd_of_mod_eq_zero aligned.2))) (by
    rw [place, UInt32.toNat_toUInt64]
    exact fits) held
  rw [place, UInt32.toNat_toUInt64] at covers
  exact covers

theorem orderly_of_apart (base : found.layout.trueBase.toNat = start)
    (same : found.sections = listed)
    (aligned : start % Page.size = 0 ∧ ∀ entry ∈ listed, entry.rva.toNat % Page.size = 0)
    (fits : start + headerPageSize.toNat ≤ UInt64.size ∧
      ∀ entry ∈ listed, (entry.span start).stop ≤ UInt64.size)
    (apart : listed.Pairwise fun left right => (left.span start).Apart (right.span start))
    (headerApart : ∀ entry ∈ listed,
      Span.Apart ⟨start, start + headerPageSize.toNat⟩ (entry.span start)) :
    found.Orderly keeper headerPageSize true := by
  subst same
  have covers {entry : ImageSection} (member : entry ∈ found.sections) {page : Nat}
      (held : found.Holds keeper entry page) : (entry.span start).Covers page :=
    holds_covers base ⟨aligned.1, aligned.2 entry member⟩ (fits.2 entry member) held
  refine ⟨?_, ?_, fun _ => base ▸ aligned.1, ?_⟩
  · intro entry member _ address placed
    rw [← ImageLayout.addressOf?_eq_some_iff.mp placed, base]
    exact Nat.mod_eq_zero_of_dvd (Nat.dvd_add (Nat.dvd_of_mod_eq_zero aligned.1)
      (Nat.dvd_of_mod_eq_zero (aligned.2 entry member)))
  · refine apart.imp_of_mem ?_
    intro left right leftMember rightMember clear page held other
    exact clear.not_covers (covers rightMember other) (covers leftMember held)
  · intro _ entry member page held other
    have within := overlaps_covers (base ▸ aligned.1) (base ▸ fits.1) held
    rw [base] at within
    exact (headerApart entry member).not_covers (covers member other) within

end PageTable

namespace Image

variable {τ : Type} {permissions : PagePermissions τ} {relocator : Relocator ρ}
  {headerPageSize address : UInt64} {size : Nat} {memory : Memory} {initial : τ} {world : ρ}
  {loaded : LoadedImage} {reached : Machine (τ × ρ)}

theorem load_grants
    (done : (load permissions.inside relocator.inside headerPageSize address size).outcome
      ⟨memory, (initial, world)⟩ = (.ok loaded, reached)) :
    ∃ found : Survey, found.Of (memory.window address.toNat size) address ∧ found.Addressed ∧
      loaded = found.loaded loaded.relocated ∧
      permissions.Grants (found.requests headerPageSize loaded.relocated) initial
        reached.outside.1 := by
  have course := load_course permissions.inside relocator.inside headerPageSize address size memory
    (initial, world)
  rw [done] at course
  generalize loadEvents .. = events at course
  cases course with
  | @inPlace found middle surveyed granted addressed still =>
      refine ⟨found, surveyed, addressed, rfl, ?_⟩
      rw [preparation_still fun both => still both.2] at granted
      rw [Survey.requests, if_neg (by simp [Survey.loaded]), List.append_nil]
      exact (PagePermissions.grants_inside.mp granted).1
  | @moved found middle after last report later surveyed granted addressed displaced moved fine
      locked =>
      refine ⟨found, surveyed, addressed, rfl, ?_⟩
      rw [preparation_displaced addressed displaced] at granted
      have same : after.1 = middle.1 := congrArg (fun result => result.2.2.1) moved.symm
      have all : found.requests headerPageSize true =
          found.sectionRequests ++ found.unlocking headerPageSize ++
            [found.locking headerPageSize] := by
        simp [Survey.requests, Survey.unlocking, Survey.headerRequests, Survey.locking,
          PermissionRequest.each, PermissionChange.ofHeader]
      rw [show (found.loaded true).relocated = true from rfl, all]
      refine PagePermissions.grants_append.mpr ⟨middle.1, ?_, ?_⟩
      · exact (PagePermissions.grants_inside.mp granted).1
      · rw [← same]
        exact (PagePermissions.grants_inside.mp locked).1

/-- However a supervisor keeps the words of its pages: a load that goes well leaves code read-only
and as executable as its first page was, data writable and constants read-only and neither of them
executable, the headers of a moved image read-only and not executable, and all other pages as they
were, wherever sections begin at pages and share none. -/
theorem load_final_permissions (keeper : PageKeeper σ) (relocator : Relocator ρ)
    (headerPageSize address : UInt64) (size : Nat) (memory : Memory) (initial : σ) (world : ρ)
    (loaded : LoadedImage) (reached : Machine (σ × ρ))
    (done : (load keeper.conduit.permissions.inside relocator.inside headerPageSize address
      size).outcome ⟨memory, (initial, world)⟩ = (.ok loaded, reached)) :
    ∃ found : Survey, found.Of (memory.window address.toNat size) address ∧ found.Addressed ∧
      loaded = found.loaded loaded.relocated ∧
      (found.Orderly keeper headerPageSize loaded.relocated →
        found.Protected keeper headerPageSize loaded.relocated initial reached.outside.1) := by
  obtain ⟨found, surveyed, addressed, same, granted⟩ := load_grants done
  exact ⟨found, surveyed, addressed, same, fun orderly =>
    Survey.protected_of_grants orderly addressed granted⟩

def codeSection : ImageSection := ⟨List.replicate 8 0, 0x2000, 0x1000, 0x60000020⟩

def constantSection : ImageSection := ⟨List.replicate 8 0, 0x10, 0x3000, 0x40000040⟩

def dataSection : ImageSection := ⟨List.replicate 8 0, 0x1000, 0x4000, 0xc0000040⟩

def tableEntry (entry : ImageSection) : List UInt8 :=
  entry.name ++ littleEndian 4 entry.size.toNat ++ littleEndian 4 entry.rva.toNat ++
    littleEndian 20 0 ++ littleEndian 4 entry.flags.toNat

/-- A stripped image that is linked at `0x40000`, with two pages of code, some constants and a page
of data. The code begins at the page behind the headers and holds an address in the image and the
table that says where the address is. -/
def threeSectionImage : List UInt8 :=
  littleEndian 2 teSignature.toNat ++ [0x64, 0xaa, 3, 0] ++ littleEndian 2 0xf88 ++
    littleEndian 4 0x1000 ++ littleEndian 4 0x1000 ++ littleEndian 8 0x40000 ++
    littleEndian 4 0x1008 ++ littleEndian 4 12 ++ littleEndian 8 0 ++
  [codeSection, constantSection, dataSection].flatMap tableEntry ++
  (littleEndian 8 0x41000 ++ littleEndian 4 0x1000 ++ littleEndian 4 12 ++
    littleEndian 2 0xa000 ++ littleEndian 2 0)

def threeSectionVolume : Volume.FlatVolume where
  lead := List.replicate 32 0
  attributes := [0xff, 0xfe, 4, 0]
  checksum := [0, 0]
  revision := [0, 2]
  blockMap := []
  extension := none
  files := [
    ⟨List.replicate 18 0, Volume.coreFileKind, 0, 0, 0xf8,
      [⟨Volume.teKind, false, threeSectionImage⟩], fun _ => 0⟩]
  fill _ := 0xff
  erased := 0

def threeSectionMemory : Memory :=
  Memory.holding [(0x10f0c, Contents.ofBytes threeSectionVolume.bytes)]

def threeSectionTable : PageTable where
  version := 0x10001
  fallback := 0b001
  aligned := true
  pages := (∅ : Std.TreeMap Nat UInt64).insert 0x12000 0b101

def threeSectionLoad : Except Stop LoadedImage × Machine (PageTable × Unit) :=
  (load PageTable.keeper.conduit.permissions.inside Relocator.fixups.inside 0x1000 0x10f0c
    threeSectionVolume.bytes.length).outcome ⟨threeSectionMemory, (threeSectionTable, ())⟩

section ThreeSections

variable {found : Survey}
  (surveyed : found.Of (threeSectionMemory.window 0x10f0c threeSectionVolume.bytes.length) 0x10f0c)

include surveyed

theorem threeSection_layout : found.layout.trueBase.toNat = 0x10000 ∧
    found.sections = [codeSection, constantSection, dataSection] := by
  obtain ⟨seen, laid⟩ := surveyed
  have read : ((sight (threeSectionMemory.window 0x10f0c threeSectionVolume.bytes.length)
      0x10f0c).result.toOption.bind fun sighting =>
        (computeLayout sighting.image sighting.address).result.toOption.map fun laid =>
          (laid.2.trueBase.toNat, sections sighting.image laid.2)) =
      some (0x10000, [codeSection, constantSection, dataSection]) := by
    decide +kernel
  rw [seen, Except.toOption, Option.bind_some, laid] at read
  exact Prod.mk.inj (Option.some.inj read)

theorem threeSection_orderly : found.Orderly PageTable.keeper 0x1000 true := by
  obtain ⟨base, listed⟩ := threeSection_layout surveyed
  exact PageTable.orderly_of_apart base listed (by decide) (by decide) (by decide) (by decide)

end ThreeSections

/-- The sections and the headers of a moved image get the permissions that they call for, also the
page of code that could not execute before. -/
theorem load_protects_three_sections :
    ∃ loaded reached, threeSectionLoad = (.ok loaded, reached) ∧ loaded.relocated = true ∧
      let table := reached.outside.1
      (PageTable.keeper.ReadOnly table 0x12000 ∧
        (PageTable.keeper.word table 0x12000).field .nonExecutable = 0) ∧
      (PageTable.keeper.ReadOnly table 0x13000 ∧ PageTable.keeper.NoExec table 0x13000) ∧
      (PageTable.keeper.Writable table 0x14000 ∧ PageTable.keeper.NoExec table 0x14000) ∧
      (PageTable.keeper.ReadOnly table 0x10000 ∧ PageTable.keeper.NoExec table 0x10000) ∧
      PageTable.keeper.word table 0x15000 = .readWrite := by
  have moved : threeSectionLoad.1.toOption.map (·.relocated) = some true := by decide +kernel
  rcases done : threeSectionLoad with ⟨stop | loaded, reached⟩
  · rw [done] at moved
    cases moved
  obtain ⟨found, surveyed, -, -, protects⟩ := load_final_permissions PageTable.keeper
    Relocator.fixups 0x1000 0x10f0c threeSectionVolume.bytes.length threeSectionMemory
    threeSectionTable () loaded reached done
  rw [done] at moved
  have relocated : loaded.relocated = true := Option.some.inj moved
  rw [relocated] at protects
  obtain ⟨code, data, constants, header, others⟩ := protects (threeSection_orderly surveyed)
  obtain ⟨base, listed⟩ := threeSection_layout surveyed
  have placed (entry : ImageSection) (address : UInt64)
      (sum : 0x10000 + entry.rva.toNat = address.toNat) :
      found.layout.addressOf? entry.rva = some address :=
    ImageLayout.addressOf?_eq_some_iff.mpr (by rw [base, sum])
  have first : found.layout.trueBase = 0x10000 := UInt64.toNat_inj.mp base
  refine ⟨loaded, reached, rfl, relocated, ?_, ?_, ?_, ?_, ?_⟩
  · obtain ⟨readOnly, execution⟩ := code codeSection (by simp [listed]) (by decide) 0x11000
      (placed _ _ (by decide)) 0x12000 ⟨0x1000, by decide, by decide⟩
    exact ⟨readOnly, execution.trans (by decide +kernel)⟩
  · exact constants constantSection (by simp [listed]) (by decide) (by decide) 0x13000
      ⟨0x13000, placed _ _ (by decide), 0, by decide, by decide⟩
  · exact data dataSection (by simp [listed]) (by decide) (by decide) 0x14000
      ⟨0x14000, placed _ _ (by decide), 0, by decide, by decide⟩
  · exact header rfl 0x10000 ⟨0, by decide, by rw [first]; decide⟩
  · rw [others 0x15000]
    · decide +kernel
    · intro entry member held
      rw [listed] at member
      have within : ∀ entry ∈ [codeSection, constantSection, dataSection],
          entry.rva.toNat % Page.size = 0 ∧ (entry.span 0x10000).stop ≤ 0x15000 := by
        decide
      obtain ⟨aligned, below⟩ := within entry member
      have covers := PageTable.holds_covers base ⟨by decide, aligned⟩
        (Nat.le_trans below (by decide)) held
      exact absurd below (Nat.not_le.mpr covers.2)
    · intro _ held
      have covers := PageTable.overlaps_covers (by rw [base]; decide) (by rw [base]; decide) held
      rw [base] at covers
      exact absurd covers.2 (by decide)

end Image

end PartitionBoot
