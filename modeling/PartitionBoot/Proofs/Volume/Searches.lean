import PartitionBoot.Proofs.Volume.Chains

/-!
Searches through the files of a volume and the sections of a file in arbitrary bytes. An entry is
read exactly if it fits, and a search ends as the chain of the entries says: at the first one of
the kind, without one, or at a header that does not fit.
-/

namespace PartitionBoot

namespace Volume

variable {volume : Window} {start stop place core : Nat} {kind : UInt8}

/-! Entries. -/

def Format.Fits.entry {format : Format} (fits : format.Fits volume stop place) : Entry where
  kind := format.kind volume place
  headerSize := format.header volume place
  size := format.size volume place
  header_pos := Nat.lt_of_lt_of_le format.header_pos format.least_le_header
  header_le := fits.header_le

@[simp] theorem Format.Fits.kind_entry {format : Format} (fits : format.Fits volume stop place) :
    fits.entry.kind = format.kind volume place := rfl

@[simp] theorem Format.Fits.headerSize_entry {format : Format}
    (fits : format.Fits volume stop place) :
    fits.entry.headerSize = format.header volume place := rfl

@[simp] theorem Format.Fits.size_entry {format : Format} (fits : format.Fits volume stop place) :
    fits.entry.size = format.size volume place := rfl

def Format.content (format : Format) (volume : Window) (place : Nat) : ImageLocation where
  offset := place + format.header volume place
  size := format.size volume place - format.header volume place
  kind := format.kind volume place

theorem Format.Fits.entry_eq {format : Format} {header size : Nat}
    (fits : format.Fits volume stop place) (sameHeader : format.header volume place = header)
    (sameSize : format.size volume place = size) (positive : 0 < header) (within : header ≤ size) :
    (⟨format.kind volume place, header, size, positive, within⟩ : Entry) = fits.entry := by
  subst sameHeader sameSize
  rfl

theorem checked_result {α : Type} {format : Format} {header size : Nat} {notice : Notice}
    (present : ¬ format.Ends volume stop place) (sameHeader : format.header volume place = header)
    (sameSize : format.size volume place = size)
    {entered : header ≤ size ∧ place + size ≤ stop → Report BootFailure α}
    {value : format.Fits volume stop place → α}
    (enters : ∀ within fits, (entered within).result = .ok (value fits)) :
    (if within : header ≤ size ∧ place + size ≤ stop then entered within
      else Report.failNoting notice malformed).result =
        if fits : format.Fits volume stop place then .ok (value fits) else .error malformed := by
  subst sameHeader sameSize
  by_cases fits : format.Fits volume stop place
  · rw [dif_pos ⟨fits.header_le, fits.inside⟩, dif_pos fits, enters _ fits]
  · rw [dif_neg fun within => fits ⟨present, within.1, within.2⟩, dif_neg fits]
    rfl

theorem Format.not_fits {format : Format} {header : Nat} (whole : stop ≤ volume.size)
    (sameHeader : format.header volume place = header) (outside : volume.size < place + header) :
    ¬ format.Fits volume stop place := by
  intro fits
  have least := fits.header_le
  have inside := fits.inside
  omega

theorem sectionAt_result (whole : stop ≤ volume.size)
    (present : ¬ sections.Ends volume stop place) :
    (sectionAt volume place stop).result =
      if fits : sections.Fits volume stop place then .ok fits.entry else .error malformed := by
  have room : place + 4 ≤ stop := by
    simp only [Format.Ends, not_or] at present
    exact Nat.le_of_not_lt present.1
  obtain ⟨short, read⟩ : ∃ short, volume.le24? place = some short :=
    ⟨_, Window.le24?_inside (by omega)⟩
  have held := Window.number_of_le24? read
  have escape : sections.large volume place = decide (short = sizeEscape) := by
    refine decide_eq_decide.mpr ?_
    rw [held, UInt32.toNat_inj]
  simp only [sectionAt, read, Report.result_bind, Report.result_require, Except.bind]
  by_cases long : short = sizeEscape
  · rw [decide_eq_true long] at escape
    have header : sections.header volume place = 8 := by rw [Format.header, escape]; rfl
    simp only [long, decide_true, if_true]
    cases further : volume.le32? (place + 4) with
    | none =>
        have outside : volume.size < place + 8 := Window.le32?_eq_none_iff.mp further
        rw [dif_neg (Format.not_fits whole header outside), sectionHeaderSize]
        simp only [Bool.false_eq_true, if_false, further, Report.result_bind,
          Report.result_require, Except.bind]
    | some word =>
        have size : sections.size volume place = word.toNat := by
          rw [Format.size, escape]
          exact Window.number_of_le32? further
        simp only [sectionHeaderSize, Bool.false_eq_true, if_false, further, Report.result_bind,
          Report.result_require, Except.bind, Report.result_pure]
        exact checked_result present header size fun within fits =>
          congrArg Except.ok (fits.entry_eq header size (by decide) within.1)
  · rw [decide_eq_false long] at escape
    have header : sections.header volume place = 4 := by rw [Format.header, escape]; rfl
    have size : sections.size volume place = short.toNat := by
      rw [Format.size, escape]
      exact held
    simp only [long, decide_false, Bool.false_eq_true, if_false, Report.result_bind,
      Report.result_pure, Except.bind]
    exact checked_result present header size fun within fits =>
      congrArg Except.ok (fits.entry_eq header size (by decide) within.1)

theorem files_ends_iff {raw : Window} (cut : volume.slice? place 24 = some raw) :
    files.Ends volume stop place ↔
      (decide (stop < place + 24) || raw.bytes.all (· = 0xff)) = true := by
  obtain ⟨_, rfl⟩ := Window.slice?_eq_some_iff.mp cut
  have erased : files.erasable = true := rfl
  have least : files.headerSize false = 24 := rfl
  simp [Format.Ends, erased, least, Window.bytes, Window.byte, Memory.readBytes, Nat.add_assoc]

theorem noted_result {header size : Nat} (fits : files.Fits volume stop place)
    (sameHeader : files.header volume place = header) (sameSize : files.size volume place = size)
    (positive : 0 < header) (within : header ≤ size) :
    (if files.kind volume place = padFileKind then do
        Report.note (.padFile place)
        pure (some ⟨files.kind volume place, header, size, positive, within⟩)
      else pure (some ⟨files.kind volume place, header, size, positive, within⟩) :
        Report BootFailure (Option Entry)).result = .ok (some fits.entry) := by
  rw [fits.entry_eq sameHeader sameSize positive within]
  split
  · rfl
  · rfl

theorem fileAt_result (whole : stop ≤ volume.size) :
    (fileAt volume place stop).result =
      if files.Ends volume stop place then .ok none
      else if fits : files.Fits volume stop place then .ok (some fits.entry)
      else .error malformed := by
  rw [fileAt, show fileHeaderSize false = 24 from rfl]
  cases cut : volume.slice? place 24 with
  | none =>
      have outside : volume.size < place + 24 := Window.slice?_eq_none_iff.mp cut
      rw [if_pos (.inl (by show stop < place + 24; omega))]
      rfl
  | some raw =>
      have told := @files_ends_iff volume stop place raw cut
      have shown (offset : Nat) : raw.byte offset = volume.byte (place + offset) := by
        obtain ⟨_, rfl⟩ := Window.slice?_eq_some_iff.mp cut
        simp only [Window.byte, Nat.add_assoc]
      have kind : raw.byte 18 = files.kind volume place := shown 18
      have large : (raw.byte 19 &&& largeFile != 0) = files.large volume place := by
        rw [shown]
        rfl
      dsimp only
      by_cases ends : files.Ends volume stop place
      · rw [if_pos ends, if_pos (told.mp ends)]
        rfl
      rw [if_neg ends, if_neg (mt told.mpr ends)]
      cases long : files.large volume place with
      | true =>
          have header : files.header volume place = 32 := by rw [Format.header, long]; rfl
          simp only [large, long, if_true, kind]
          cases further : volume.le64? (place + 24) with
          | none =>
              have outside : volume.size < place + 32 := Window.le64?_eq_none_iff.mp further
              rw [dif_neg (Format.not_fits whole header outside)]
              rfl
          | some word =>
              have size : files.size volume place = word.toNat := by
                rw [Format.size, long]
                exact Window.number_of_le64? further
              exact checked_result ends header size fun within fits =>
                noted_result fits header size (by decide) within.1
      | false =>
          have header : files.header volume place = 24 := by rw [Format.header, long]; rfl
          have room : raw.size = 24 := by
            obtain ⟨_, rfl⟩ := Window.slice?_eq_some_iff.mp cut
            rfl
          obtain ⟨word, read⟩ : ∃ word, raw.le24? 20 = some word :=
            ⟨_, Window.le24?_inside (by omega)⟩
          have size : files.size volume place = word.toNat := by
            rw [Format.size, long, ← Window.number_of_le24? read]
            obtain ⟨_, rfl⟩ := Window.slice?_eq_some_iff.mp cut
            simp only [Window.number, Nat.add_assoc]
            rfl
          simp only [large, long, Bool.false_eq_true, if_false, kind, read]
          exact checked_result ends header size fun within fits =>
            noted_result fits header size (by decide) within.1

/-! Searches. -/

/-- How a search through a chain ends: at the first entry of a kind, without one, or at a header
that does not fit. -/
def Format.Searched (format : Format) (volume : Window) (stop : Nat) (kind : UInt8) (start : Nat) :
    Except BootFailure (Option Nat) → Prop
  | .ok (some place) => format.First volume stop kind start place
  | .ok none => format.Lacks volume stop kind start
  | .error failure => failure = malformed ∧ format.Breaks volume stop kind start

theorem Format.Searched.step {format : Format} {told : Except BootFailure (Option Nat)}
    (fits : format.Fits volume stop start) (unlike : format.kind volume start ≠ kind)
    (searched : format.Searched volume stop kind (format.next volume start) told) :
    format.Searched volume stop kind start told := by
  match told with
  | .ok (some place) => exact Format.First.step fits unlike searched
  | .ok none => exact Format.Lacks.step fits unlike searched
  | .error failure => exact ⟨searched.1, searched.2.step fits unlike⟩

theorem Format.Searched.unique {format : Format} {told also : Except BootFailure (Option Nat)}
    (searched : format.Searched volume stop kind start told)
    (again : format.Searched volume stop kind start also) : told = also := by
  match told, also with
  | .ok (some place), .ok (some other) => rw [Format.First.unique searched again]
  | .ok (some place), .ok none => exact absurd again (Format.First.not_lacks searched)
  | .ok (some place), .error failure => exact absurd again.2 (Format.First.not_breaks searched)
  | .ok none, .ok (some place) => exact absurd searched (Format.First.not_lacks again)
  | .ok none, .ok none => rfl
  | .ok none, .error failure => exact absurd again.2 (Format.Lacks.not_breaks searched)
  | .error failure, .ok (some place) => exact absurd searched.2 (Format.First.not_breaks again)
  | .error failure, .ok none => exact absurd searched.2 (Format.Lacks.not_breaks again)
  | .error failure, .error other => rw [searched.1, again.1]

theorem Format.searched_found {format : Format} (fits : format.Fits volume stop start)
    (same : format.kind volume start = kind) :
    format.Searched volume stop kind start (.ok (some start)) :=
  ⟨⟨0, .none start⟩, fits, same⟩

theorem Format.searched_ended {format : Format} (ends : format.Ends volume stop start) :
    format.Searched volume stop kind start (.ok none) :=
  ⟨0, start, .none start, ends⟩

theorem Format.searched_broken {format : Format} (goes : ¬ format.Ends volume stop start)
    (misfit : ¬ format.Fits volume stop start) :
    format.Searched volume stop kind start (.error malformed) :=
  ⟨rfl, 0, start, .none start, goes, misfit⟩

theorem sections_ends_iff :
    sections.Ends volume stop place ↔ ¬ place + sectionHeaderSize false ≤ stop := by
  simp only [Format.Ends, sections, Bool.false_eq_true, false_and, or_false, Nat.not_le]

theorem findSection_searched (whole : stop ≤ volume.size) (wanted : UInt8) (start : Nat) :
    ∃ told, sections.Searched volume stop wanted start told ∧
      (findSection volume wanted start stop).result =
        told.map (Option.map (sections.content volume)) := by
  fun_induction findSection volume wanted start stop with
  | case1 start room ih =>
      have goes : ¬ sections.Ends volume stop start := fun ends => sections_ends_iff.mp ends room
      have read := sectionAt_result whole goes
      rw [Report.result_bind, read]
      by_cases fits : sections.Fits volume stop start
      · rw [dif_pos fits]
        simp only [Except.bind]
        by_cases same : sections.kind volume start = wanted
        · refine ⟨.ok (some start), Format.searched_found fits same, ?_⟩
          rw [fits.kind_entry, if_pos same]
          rfl
        · obtain ⟨told, searched, result⟩ := ih fits.entry
          refine ⟨told, searched.step fits same, ?_⟩
          rw [fits.kind_entry, if_neg same]
          exact result
      · rw [dif_neg fits]
        exact ⟨.error malformed, Format.searched_broken goes fits, rfl⟩
  | case2 start full =>
      exact ⟨.ok none, Format.searched_ended (sections_ends_iff.mpr full), rfl⟩

theorem locateFrom_searched (whole : stop ≤ volume.size) (start : Nat) :
    ∃ told, files.Searched volume stop coreFileKind start told ∧
      (locateFrom volume start stop).result = match told with
        | .error failure => .error failure
        | .ok none => .error .imageNotFound
        | .ok (some core) =>
            match (findImage volume (core + files.header volume core)
              (core + files.size volume core)).result with
            | .error failure => .error failure
            | .ok none => .error .imageNotFound
            | .ok (some found) => .ok found := by
  fun_induction locateFrom volume start stop with
  | case1 start before ih =>
      rw [Report.result_bind, fileAt_result whole]
      by_cases ends : files.Ends volume stop start
      · rw [if_pos ends]
        exact ⟨.ok none, Format.searched_ended ends, rfl⟩
      rw [if_neg ends]
      by_cases fits : files.Fits volume stop start
      · rw [dif_pos fits]
        simp only [Except.bind]
        by_cases same : files.kind volume start = coreFileKind
        · refine ⟨.ok (some start), Format.searched_found fits same, ?_⟩
          rw [fits.kind_entry, if_pos same, Report.result_bind,
            Report.result_note]
          simp only [Except.bind, Report.result_bind]
          rw [fits.headerSize_entry, fits.size_entry]
          generalize (findImage volume (start + files.header volume start)
            (start + files.size volume start)).result = image
          rcases image with failure | none | found <;> rfl
        · obtain ⟨told, searched, result⟩ := ih fits.entry
          refine ⟨told, searched.step fits same, ?_⟩
          rw [fits.kind_entry, if_neg same]
          exact result
      · rw [dif_neg fits]
        exact ⟨.error malformed, Format.searched_broken ends fits, rfl⟩
  | case2 start full =>
      refine ⟨.ok none, Format.searched_ended (.inl ?_), rfl⟩
      show stop < start + 24
      omega

/-! Images. -/

def ImageSearched (volume : Window) (file : Nat) (told : Except BootFailure (Option Nat)) : Prop :=
  let start := file + files.header volume file
  let stop := file + files.size volume file
  ∃ first, sections.Searched volume stop pe32Kind start first ∧
    (first = .ok none ∧ sections.Searched volume stop teKind start told ∨
      first ≠ .ok none ∧ told = first)

theorem ImageSearched.unique {told also : Except BootFailure (Option Nat)}
    (searched : ImageSearched volume core told) (again : ImageSearched volume core also) :
    told = also := by
  obtain ⟨first, found, rest⟩ := searched
  obtain ⟨same, refound, more⟩ := again
  obtain rfl := found.unique refound
  obtain ⟨lacks, rest⟩ | ⟨found, rest⟩ := rest
  · obtain ⟨_, more⟩ | ⟨found, _⟩ := more
    · exact rest.unique more
    · exact absurd lacks found
  · obtain ⟨lacks, _⟩ | ⟨_, more⟩ := more
    · exact absurd lacks found
    · exact rest.trans more.symm

theorem findImage_searched (whole : core + files.size volume core ≤ volume.size) :
    ∃ told, ImageSearched volume core told ∧
      (findImage volume (core + files.header volume core)
        (core + files.size volume core)).result =
          told.map (Option.map (sections.content volume)) := by
  obtain ⟨first, searched, result⟩ :=
    findSection_searched whole pe32Kind (core + files.header volume core)
  rw [findImage, Report.result_bind, result]
  match first with
  | .error failure => exact ⟨_, ⟨_, searched, .inr ⟨nofun, rfl⟩⟩, rfl⟩
  | .ok (some found) => exact ⟨_, ⟨_, searched, .inr ⟨nofun, rfl⟩⟩, rfl⟩
  | .ok none =>
      obtain ⟨told, also, result⟩ :=
        findSection_searched whole teKind (core + files.header volume core)
      exact ⟨told, ⟨_, searched, .inl ⟨rfl, also⟩⟩, result⟩

/-- A file holds an image in the section at a place: the first PE32 section, or the first TE section
where there is no PE32 section up to the end of the file. -/
def ImageAt (volume : Window) (file place : Nat) : Prop :=
  let start := file + files.header volume file
  let stop := file + files.size volume file
  sections.First volume stop pe32Kind start place ∨
    sections.Lacks volume stop pe32Kind start ∧ sections.First volume stop teKind start place

def Imageless (volume : Window) (file : Nat) : Prop :=
  let start := file + files.header volume file
  let stop := file + files.size volume file
  sections.Lacks volume stop pe32Kind start ∧ sections.Lacks volume stop teKind start

theorem imageSearched_some_iff :
    ImageSearched volume core (.ok (some place)) ↔ ImageAt volume core place := by
  constructor
  · rintro ⟨first, searched, ⟨rfl, rest⟩ | ⟨_, rfl⟩⟩
    · exact .inr ⟨searched, rest⟩
    · exact .inl searched
  · rintro (first | ⟨lacks, first⟩)
    · exact ⟨.ok (some place), first, .inr ⟨nofun, rfl⟩⟩
    · exact ⟨.ok none, lacks, .inl ⟨rfl, first⟩⟩

theorem imageSearched_none_iff : ImageSearched volume core (.ok none) ↔ Imageless volume core := by
  constructor
  · rintro ⟨first, searched, ⟨rfl, rest⟩ | ⟨found, same⟩⟩
    · exact ⟨searched, rest⟩
    · exact absurd same.symm found
  · rintro ⟨lacks, also⟩
    exact ⟨.ok none, lacks, .inl ⟨rfl, also⟩⟩

/-- In front of any PE32 section, a file has a section that does not fit. -/
def ImageBroken (volume : Window) (file : Nat) : Prop :=
  sections.Breaks volume (file + files.size volume file) pe32Kind
    (file + files.header volume file)

theorem imageSearched_error_iff {failure : BootFailure} :
    ImageSearched volume core (.error failure) ↔ failure = malformed ∧ ImageBroken volume core := by
  constructor
  · rintro ⟨first, searched, ⟨rfl, rest⟩ | ⟨_, rfl⟩⟩
    · exact absurd rest.2 (Format.Lacks.not_breaks searched)
    · exact searched
  · rintro ⟨rfl, breaks⟩
    exact ⟨.error malformed, ⟨rfl, breaks⟩, .inr ⟨nofun, rfl⟩⟩

end Volume

end PartitionBoot
