import PartitionBoot.Proofs.Image.WriteOrExecute
import PartitionBoot.Proofs.Supervisor.PageChange

/-!
The data access that the sections of an image leave on pages. Every section of code or constants
makes its pages read-only and every other one makes them writable, so what counts on a page is the
last section over it.
-/

namespace PartitionBoot

variable {σ ρ : Type}

namespace PageKeeper

variable (keeper : PageKeeper σ)

def ReadOnly (state : σ) (page : Nat) : Prop :=
  (keeper.word state page).field .dataAccess = AttributeWord.readOnly.bits

instance (state : σ) (page : Nat) : Decidable (keeper.ReadOnly state page) :=
  inferInstanceAs (Decidable (_ = _))

/-- All pages are writable and executable, as a supervisor hands them over. -/
def Plain (state : σ) : Prop := ∀ page, keeper.word state page = .readWrite

def pageOf (address : Nat) : Nat := keeper.page (Page.start (UInt64.ofNat address))

/-- Among the pages with a property, which ones are read-only. -/
def Tracks (among locked : Nat → Prop) (state : σ) : Prop :=
  ∀ page, among page → (keeper.ReadOnly state page ↔ locked page)

variable {keeper} {change : PermissionChange} {base length : UInt64} {state reached : σ}
  {locked : Nat → Prop}

theorem readOnly_of_update (access : change.subject = .dataAccess)
    (done : (keeper.conduit.permissions.update change base length).outcome state =
      (.ok (), reached)) {page : Nat} (spanned : keeper.Spans base (Page.count length) page) :
    keeper.ReadOnly reached page ↔ change = .setReadOnly := by
  rw [ReadOnly, (update_ok done page).1 spanned, ← access, change.subject_apply]
  cases change with
  | setNoExec => exact absurd access (by decide)
  | setReadOnly => decide
  | clearReadOnly => decide

theorem Tracks.apart (tracks : keeper.Tracks (fun _ => True) locked state)
    (done : (keeper.conduit.permissions.update change base length).outcome state =
      (.ok (), reached)) :
    keeper.Tracks (fun page => ¬ keeper.Spans base (Page.count length) page) locked reached := by
  intro page apart
  rw [ReadOnly, (update_ok done page).2 apart]
  exact tracks page trivial

theorem Tracks.access (access : change.subject = .dataAccess)
    (tracks : keeper.Tracks (fun page => ¬ keeper.Spans base (Page.count length) page) locked state)
    (done : (keeper.conduit.permissions.update change base length).outcome state =
      (.ok (), reached)) :
    keeper.Tracks (fun _ => True) (fun page =>
      keeper.Spans base (Page.count length) page ∧ change = .setReadOnly ∨
        ¬ keeper.Spans base (Page.count length) page ∧ locked page) reached := by
  intro page _
  by_cases spanned : keeper.Spans base (Page.count length) page
  · simp only [readOnly_of_update access done spanned, spanned, true_and, not_true, false_and,
      or_false]
  · rw [ReadOnly, (update_ok done page).2 spanned]
    simp only [spanned, false_and, false_or, not_false_iff, true_and]
    exact tracks page spanned

theorem Tracks.unlocked
    (tracks : keeper.Tracks (fun page => ¬ keeper.Spans base (Page.count length) page) locked state)
    (done : (keeper.conduit.permissions.update .clearReadOnly base length).outcome state =
      (.ok (), reached)) :
    keeper.Tracks (fun _ => True)
      (fun page => ¬ keeper.Spans base (Page.count length) page ∧ locked page) reached := by
  intro page _
  rw [tracks.access rfl done page trivial]
  simp

end PageKeeper

namespace Image

variable (keeper : PageKeeper σ)

def SectionOver (layout : ImageLayout) (entry : ImageSection) (page : Nat) : Prop :=
  entry.size ≠ 0 ∧ ∃ base, layout.addressOf? entry.rva = some base ∧
    keeper.Spans base (Page.count entry.size.toUInt64) page

/-- The last section over a page is code or constants. -/
def Locked (layout : ImageLayout) (sections : List ImageSection) (page : Nat) : Prop :=
  ∃ before entry after, sections = before ++ entry :: after ∧
    SectionOver keeper layout entry page ∧ (entry.isCode || !entry.isWritable) = true ∧
    ∀ later ∈ after, ¬ SectionOver keeper layout later page

def sectionsFrom (image : Window) (layout : ImageLayout) (index : Nat) : Nat → List ImageSection
  | 0 => []
  | count + 1 =>
      match (sectionEntry image layout index).result with
      | .ok entry => entry :: sectionsFrom image layout (index + 1) count
      | .error _ => sectionsFrom image layout (index + 1) count

def sections (image : Window) (layout : ImageLayout) : List ImageSection :=
  sectionsFrom image layout 0 layout.sectionCount.toNat

/-- What holds of the supervisor in a larger world, of which the other part is still `rest`. -/
def Aside (rest : ρ) (property : σ → Prop) (world : σ × ρ) : Prop :=
  property world.1 ∧ world.2 = rest

def Anyhow (_ : σ) : Prop := True

variable {keeper} {layout : ImageLayout} {entry : ImageSection} {done : List ImageSection}
  {rest : ρ}

theorem locked_nil (page : Nat) : ¬ Locked keeper layout [] page := by
  rintro ⟨before, entry, after, split, _⟩
  simp at split

theorem not_locked {sections : List ImageSection}
    (writable : ∀ entry ∈ sections, (entry.isCode || !entry.isWritable) = false) (page : Nat) :
    ¬ Locked keeper layout sections page := by
  rintro ⟨before, entry, after, rfl, _, locked, _⟩
  rw [writable entry (by simp)] at locked
  exact absurd locked (by decide)

theorem locked_append_singleton (page : Nat) :
    Locked keeper layout (done ++ [entry]) page ↔
      SectionOver keeper layout entry page ∧ (entry.isCode || !entry.isWritable) = true ∨
        ¬ SectionOver keeper layout entry page ∧ Locked keeper layout done page := by
  constructor
  · rintro ⟨before, found, after, split, held, locked, apart⟩
    -- The section that decides is the new one, or one in front of it.
    rcases List.eq_nil_or_concat after with rfl | ⟨front, last, rfl⟩
    · obtain ⟨rfl, same⟩ := List.append_inj' split rfl
      cases same
      exact .inl ⟨held, locked⟩
    · rw [List.concat_eq_append, ← List.cons_append, ← List.append_assoc] at split
      obtain ⟨rfl, same⟩ := List.append_inj' split rfl
      cases same
      refine .inr ⟨apart entry (by simp), before, found, front, rfl, held, locked, ?_⟩
      intro later member
      exact apart later (by simp [member])
  · rintro (⟨held, locked⟩ | ⟨apart, before, found, after, rfl, held, locked, others⟩)
    · exact ⟨done, entry, [], rfl, held, locked, by simp⟩
    · refine ⟨before, found, after ++ [entry], by simp, held, locked, ?_⟩
      intro later member
      rcases List.mem_append.mp member with old | new
      · exact others later old
      · rw [List.mem_singleton.mp new]
        exact apart

theorem locked_append_empty (empty : entry.size = 0) :
    Locked keeper layout (done ++ [entry]) = Locked keeper layout done := by
  funext page
  rw [locked_append_singleton]
  simp [SectionOver, empty]

theorem sectionOver_iff (sized : entry.size ≠ 0) {base : UInt64}
    (addressed : layout.addressOf? entry.rva = some base) (page : Nat) :
    SectionOver keeper layout entry page ↔
      keeper.Spans base (Page.count entry.size.toUInt64) page := by
  simp [SectionOver, sized, addressed]

theorem anyhow_of (property : σ → Prop) (world : σ × ρ)
    (holds : Aside rest property world) : Aside rest Anyhow world :=
  ⟨trivial, holds.2⟩

theorem meets_change {change : PermissionChange} {base length : UInt64} {before after : σ → Prop}
    (reaches : ∀ state reached, before state →
      (keeper.conduit.permissions.update change base length).outcome state = (.ok (), reached) →
      after reached) :
    (keeper.conduit.permissions.inside.request change base length :
      Step (σ × ρ) BootFailure Unit).Meets
        (Aside rest before) (Aside rest Anyhow) (Aside rest after) := by
  refine Step.meets_recover ?_ fun error value good => by simp at good
  rintro world ⟨holds, same⟩
  refine ⟨⟨trivial, same⟩, fun value good => ⟨?_, same⟩⟩
  exact reaches world.1 _ holds (Prod.ext good rfl)

theorem tracks_section (sized : entry.size ≠ 0) {base : UInt64}
    (addressed : layout.addressOf? entry.rva = some base) {change : PermissionChange}
    (access : change.subject = .dataAccess)
    (fits : change = .setReadOnly ↔ (entry.isCode || !entry.isWritable) = true)
    {state reached : σ}
    (tracks : keeper.Tracks (fun page => ¬ keeper.Spans base (Page.count entry.size.toUInt64) page)
      (Locked keeper layout done) state)
    (changed : (keeper.conduit.permissions.update change base entry.size.toUInt64).outcome state =
      (.ok (), reached)) :
    keeper.Tracks (fun _ => True) (Locked keeper layout (done ++ [entry])) reached := by
  intro page _
  rw [tracks.access access changed page trivial, locked_append_singleton,
    sectionOver_iff sized addressed, fits]

theorem protectSection_tracks (sized : entry.size ≠ 0) {base : UInt64}
    (addressed : layout.addressOf? entry.rva = some base) :
    (protectSection keeper.conduit.permissions.inside entry base :
      Step (σ × ρ) BootFailure Unit).Meets
        (Aside rest (keeper.Tracks (fun _ => True) (Locked keeper layout done))) (Aside rest Anyhow)
        (Aside rest (keeper.Tracks (fun _ => True) (Locked keeper layout (done ++ [entry])))) := by
  simp only [protectSection]
  by_cases code : entry.isCode
  · simp only [code, if_true]
    refine Step.meets_bind (meets_note _ (anyhow_of _)) fun _ => meets_change ?_
    intro state reached tracks changed
    exact tracks_section sized addressed rfl (by simp [code]) (fun page _ => tracks page trivial)
      changed
  · simp only [code]
    refine Step.meets_bind (meets_change fun _ _ tracks changed => tracks.apart changed) ?_
    intro _
    by_cases writable : entry.isWritable
    · simp only [writable, if_true]
      refine Step.meets_bind (meets_note _ (anyhow_of _)) fun _ => meets_change ?_
      intro state reached tracks changed
      exact tracks_section sized addressed rfl (by simp [code, writable]) tracks changed
    · simp only [writable]
      refine Step.meets_bind (meets_note _ (anyhow_of _)) fun _ => meets_change ?_
      intro state reached tracks changed
      exact tracks_section sized addressed rfl (by simp [writable]) tracks changed

theorem protectFrom_tracks (image : Window) (index count : Nat) :
    (protectFrom keeper.conduit.permissions.inside image layout index count :
      Step (σ × ρ) BootFailure Unit).Meets
        (Aside rest (keeper.Tracks (fun _ => True) (Locked keeper layout done))) (Aside rest Anyhow)
        (Aside rest (keeper.Tracks (fun _ => True)
          (Locked keeper layout (done ++ sectionsFrom image layout index count)))) := by
  -- What counts is the list of the sections done, to which each round adds the one it reads.
  induction count generalizing index done with
  | zero =>
      rw [sectionsFrom, List.append_nil]
      exact Step.meets_still (fun _ => rfl) fun _ holds => ⟨anyhow_of _ _ holds, holds⟩
  | succ count ih =>
      refine Step.meets_bind_ofReport (anyhow_of _) ?_
      intro entry read
      replace read : (sectionEntry image layout index).result = .ok entry := read
      simp only [sectionsFrom, read]
      rw [List.append_cons]
      split
      · rename_i sized
        refine Step.meets_bind_ofReport (anyhow_of _) ?_
        intro base addressed
        replace addressed : layout.addressOf? entry.rva = some base :=
          Report.require_ok_iff.mp addressed
        refine Step.meets_bind (protectSection_tracks (by simpa using sized) addressed) ?_
        intro _
        exact ih (index + 1)
      · rename_i empty
        rw [← locked_append_empty (by simpa using empty)]
        exact ih (index + 1)

theorem tracks_plain {state : σ} (plain : keeper.Plain state) :
    keeper.Tracks (fun _ => True) (Locked keeper layout []) state := by
  intro page _
  refine ⟨fun readOnly => ?_, fun locked => absurd locked (locked_nil page)⟩
  rw [PageKeeper.ReadOnly, plain] at readOnly
  exact absurd readOnly (by decide)

theorem protect_tracks (image : Window) :
    (protect keeper.conduit.permissions.inside image layout :
      Step (σ × ρ) BootFailure Unit).Meets
        (Aside rest keeper.Plain) (Aside rest Anyhow)
        (Aside rest (keeper.Tracks (fun _ => True)
          (Locked keeper layout (sections image layout)))) := by
  have meets : (protect keeper.conduit.permissions.inside image layout :
      Step (σ × ρ) BootFailure Unit).Meets
        (Aside rest (keeper.Tracks (fun _ => True) (Locked keeper layout []))) (Aside rest Anyhow)
        (Aside rest (keeper.Tracks (fun _ => True)
          (Locked keeper layout ([] ++ sections image layout)))) :=
    protectFrom_tracks image 0 layout.sectionCount.toNat
  refine meets.restrict ?_
  rintro world ⟨plain, same⟩
  exact ⟨tracks_plain plain, same⟩

end Image

end PartitionBoot
