import PartitionBoot.Proofs.Image.Field
import PartitionBoot.Proofs.Outcome
import PartitionBoot.Volume

/-!
Chains of entries in arbitrary bytes. A file and a section alike begin with a header, whose first
bytes say whether it is a long one, and which holds the size of the whole; the next one begins at
the next multiple of an alignment. A search through a chain has three ends: it meets an entry of a
kind, comes to where no further entry is, or meets a header that does not fit. It gets to its end
over a bounded number of entries and looks at no byte behind the area of the chain.
-/

namespace PartitionBoot

def Window.Agree (window other : Window) (limit : Nat) : Prop :=
  ∀ offset < limit, other.byte offset = window.byte offset

theorem Window.Agree.mono {window other : Window} {limit nearer : Nat}
    (agree : window.Agree other limit) (within : nearer ≤ limit) : window.Agree other nearer :=
  fun offset before => agree offset (Nat.lt_of_lt_of_le before within)

theorem Window.Agree.number {window other : Window} {limit : Nat} {field : Field}
    (agree : window.Agree other limit) (within : field.span.stop ≤ limit) :
    other.number field = window.number field :=
  number_congr fun offset covers => agree offset (Nat.lt_of_lt_of_le covers.2 within)

namespace Volume

/-- How the entries of one sort are read. -/
structure Format where
  alignment : Nat
  headerSize : Bool → Nat
  kindField : Nat
  /-- Whether an entry at a place has a long header. -/
  large : Window → Nat → Bool
  sizeField : Bool → Field
  /-- Whether a short header of bytes `0xff` ends the chain. -/
  erasable : Bool
  alignment_pos : 0 < alignment
  header_pos : 0 < headerSize false
  header_le : ∀ long, headerSize false ≤ headerSize long
  kind_inside : kindField < headerSize false
  size_inside : ∀ long, (sizeField long).span.stop ≤ headerSize long
  large_congr : ∀ volume other place, volume.Agree other (place + headerSize false) →
    large other place = large volume place

def files : Format where
  alignment := 8
  headerSize := fileHeaderSize
  kindField := 18
  large volume place := volume.byte (place + 19) &&& largeFile != 0
  sizeField long := if long then ⟨24, 8⟩ else ⟨20, 3⟩
  erasable := true
  alignment_pos := Nat.two_pow_pos 3
  header_pos := by decide
  header_le := by decide
  kind_inside := by decide
  size_inside := by decide
  large_congr volume other place agree := by
    rw [agree (place + 19) (by show place + 19 < place + 24; omega)]

def sections : Format where
  alignment := 4
  headerSize := sectionHeaderSize
  kindField := 3
  large volume place := volume.number ⟨place, 3⟩ = sizeEscape.toNat
  sizeField long := if long then ⟨4, 4⟩ else ⟨0, 3⟩
  erasable := false
  alignment_pos := Nat.two_pow_pos 2
  header_pos := by decide
  header_le := by decide
  kind_inside := by decide
  size_inside := by decide
  large_congr volume other place agree := by
    rw [agree.number (by show place + 3 ≤ place + 4; omega)]

namespace Format

variable (format : Format) (volume : Window)

def header (place : Nat) : Nat := format.headerSize (format.large volume place)

def size (place : Nat) : Nat :=
  let field := format.sizeField (format.large volume place)
  volume.number ⟨place + field.offset, field.width⟩

def kind (place : Nat) : UInt8 := volume.byte (place + format.kindField)

def next (place : Nat) : Nat := alignUp (place + format.size volume place) format.alignment

def Ends (stop place : Nat) : Prop :=
  stop < place + format.headerSize false ∨
    format.erasable = true ∧
      ∀ index < format.headerSize false, volume.byte (place + index) = 0xff

/-- An entry that begins at a place has room for its header and ends in front of `stop`. -/
structure Fits (stop place : Nat) : Prop where
  present : ¬ format.Ends volume stop place
  header_le : format.header volume place ≤ format.size volume place
  inside : place + format.size volume place ≤ stop

inductive Passes (stop : Nat) (kind : UInt8) : Nat → Nat → Nat → Prop where
  | none (start : Nat) : Passes stop kind start 0 start
  | entry {start count last : Nat} (fits : format.Fits volume stop start)
      (other : format.kind volume start ≠ kind)
      (rest : Passes stop kind (format.next volume start) count last) :
      Passes stop kind start (count + 1) last

def First (stop : Nat) (kind : UInt8) (start place : Nat) : Prop :=
  (∃ count, format.Passes volume stop kind start count place) ∧
    format.Fits volume stop place ∧ format.kind volume place = kind

def Lacks (stop : Nat) (kind : UInt8) (start : Nat) : Prop :=
  ∃ count last, format.Passes volume stop kind start count last ∧ format.Ends volume stop last

/-- In front of any entry of a kind, a chain has one that does not fit. -/
def Breaks (stop : Nat) (kind : UInt8) (start : Nat) : Prop :=
  ∃ count last, format.Passes volume stop kind start count last ∧
    ¬ format.Ends volume stop last ∧ ¬ format.Fits volume stop last

instance (stop place : Nat) : Decidable (format.Ends volume stop place) :=
  inferInstanceAs (Decidable (_ ∨ _ ∧ _))

instance (stop place : Nat) : Decidable (format.Fits volume stop place) :=
  decidable_of_iff (¬ format.Ends volume stop place ∧
      format.header volume place ≤ format.size volume place ∧
      place + format.size volume place ≤ stop)
    ⟨fun ⟨present, header, inside⟩ => ⟨present, header, inside⟩,
      fun fits => ⟨fits.present, fits.header_le, fits.inside⟩⟩

variable {format volume} {other : Window} {stop start place last also count : Nat} {kind : UInt8}

theorem Fits.room (fits : format.Fits volume stop place) :
    place + format.headerSize false ≤ stop := by
  have present := fits.present
  simp only [Ends, not_or] at present
  omega

theorem least_le_header : format.headerSize false ≤ format.header volume place :=
  format.header_le _

theorem Fits.least_le_next (fits : format.Fits volume stop place) :
    place + format.headerSize false ≤ format.next volume place := by
  have least := format.header_le (format.large volume place)
  have header := fits.header_le
  have aligned := le_alignUp (place + format.size volume place) format.alignment_pos
  rw [Format.header] at header
  rw [next]
  omega

/-! A search comes to one end, over a bounded number of entries. -/

theorem Passes.le (passes : format.Passes volume stop kind start count last) : start ≤ last := by
  induction passes with
  | none start => exact Nat.le_refl start
  | entry fits _ _ ih =>
      have further := fits.least_le_next
      omega

theorem Passes.bounded (passes : format.Passes volume stop kind start count last) :
    format.headerSize false * count ≤ stop - start := by
  induction passes with
  | none start => exact Nat.zero_le _
  | entry fits _ _ ih =>
      have further := fits.least_le_next
      have room := fits.room
      rw [Nat.mul_add, Nat.mul_one]
      omega

def Stops (format : Format) (volume : Window) (stop : Nat) (kind : UInt8) (place : Nat) : Prop :=
  format.Fits volume stop place → format.kind volume place = kind

theorem Passes.unique {more : Nat} {wanted : UInt8}
    (passes : format.Passes volume stop kind start count last)
    (stops : format.Stops volume stop wanted last)
    (again : format.Passes volume stop wanted start more also)
    (alsoStops : format.Stops volume stop kind also) : last = also := by
  induction passes generalizing more with
  | none start =>
      cases again with
      | none => rfl
      | entry fits unlike _ => exact absurd (stops fits) unlike
  | entry fits unlike rest ih =>
      cases again with
      | none => exact absurd (alsoStops fits) unlike
      | entry _ _ again => exact ih stops again

theorem First.unique (first : format.First volume stop kind start place)
    (again : format.First volume stop kind start also) : place = also := by
  obtain ⟨⟨_, passes⟩, _, same⟩ := first
  obtain ⟨⟨_, repeats⟩, _, alike⟩ := again
  exact passes.unique (fun _ => same) repeats fun _ => alike

theorem First.not_lacks (first : format.First volume stop kind start place) :
    ¬ format.Lacks volume stop kind start := by
  rintro ⟨_, last, passes, ends⟩
  obtain ⟨⟨_, reaches⟩, fits, same⟩ := first
  have met := passes.unique (fun fits => absurd ends fits.present) reaches fun _ => same
  exact fits.present (met ▸ ends)

theorem First.not_breaks (first : format.First volume stop kind start place) :
    ¬ format.Breaks volume stop kind start := by
  rintro ⟨_, last, passes, _, misfit⟩
  obtain ⟨⟨_, reaches⟩, fits, same⟩ := first
  have met := passes.unique (fun fits => absurd fits misfit) reaches fun _ => same
  exact misfit (met ▸ fits)

theorem Lacks.not_breaks {wanted : UInt8} (lacks : format.Lacks volume stop kind start) :
    ¬ format.Breaks volume stop wanted start := by
  rintro ⟨_, last, passes, goes, misfit⟩
  obtain ⟨_, place, reaches, ends⟩ := lacks
  have met := passes.unique (fun fits => absurd fits misfit) reaches
    fun fits => absurd ends fits.present
  exact goes (met ▸ ends)

theorem First.step (fits : format.Fits volume stop start)
    (unlike : format.kind volume start ≠ kind)
    (first : format.First volume stop kind (format.next volume start) place) :
    format.First volume stop kind start place := by
  obtain ⟨⟨count, passes⟩, found⟩ := first
  exact ⟨⟨count + 1, .entry fits unlike passes⟩, found⟩

theorem Lacks.step (fits : format.Fits volume stop start)
    (unlike : format.kind volume start ≠ kind)
    (lacks : format.Lacks volume stop kind (format.next volume start)) :
    format.Lacks volume stop kind start := by
  obtain ⟨count, last, passes, ends⟩ := lacks
  exact ⟨count + 1, last, .entry fits unlike passes, ends⟩

theorem Breaks.step (fits : format.Fits volume stop start)
    (unlike : format.kind volume start ≠ kind)
    (breaks : format.Breaks volume stop kind (format.next volume start)) :
    format.Breaks volume stop kind start := by
  obtain ⟨count, last, passes, misfit⟩ := breaks
  exact ⟨count + 1, last, .entry fits unlike passes, misfit⟩

/-! No byte behind the area is looked at. -/

section Agree

variable (agree : volume.Agree other stop)
include agree

theorem large_eq (room : place + format.headerSize false ≤ stop) :
    format.large other place = format.large volume place :=
  format.large_congr volume other place (agree.mono room)

theorem kind_eq (room : place + format.headerSize false ≤ stop) :
    format.kind other place = format.kind volume place := by
  have inside := format.kind_inside
  exact agree (place + format.kindField) (by omega)

theorem size_eq (room : place + format.header volume place ≤ stop) :
    format.size other place = format.size volume place := by
  have least : format.headerSize false ≤ format.header volume place := least_le_header
  have inside := format.size_inside (format.large volume place)
  simp only [size, large_eq agree (by omega : place + format.headerSize false ≤ stop)]
  rw [header] at room
  refine agree.number ?_
  simp only [Field.span] at inside ⊢
  omega

theorem ends_iff : format.Ends other stop place ↔ format.Ends volume stop place := by
  by_cases room : stop < place + format.headerSize false
  · exact iff_of_true (.inl room) (.inl room)
  · simp only [Ends, room, false_or]
    refine and_congr_right fun _ => forall_congr' fun index => imp_congr_right fun inside => ?_
    rw [agree (place + index) (by omega)]

theorem Fits.header_eq (fits : format.Fits volume stop place) :
    format.header other place = format.header volume place := by
  rw [header, large_eq agree fits.room, header]

theorem Fits.size_eq (fits : format.Fits volume stop place) :
    format.size other place = format.size volume place := by
  have inside := fits.inside
  have header := fits.header_le
  exact Format.size_eq agree (by omega)

theorem Fits.transfer (fits : format.Fits volume stop place) : format.Fits other stop place where
  present := by
    rw [ends_iff agree]
    exact fits.present
  header_le := by
    rw [fits.header_eq agree, fits.size_eq agree]
    exact fits.header_le
  inside := by
    rw [fits.size_eq agree]
    exact fits.inside

theorem Passes.transfer (passes : format.Passes volume stop kind start count last) :
    format.Passes other stop kind start count last := by
  induction passes with
  | none start => exact .none start
  | entry fits unlike rest ih =>
      refine .entry (fits.transfer agree) ?_ ?_
      · rw [kind_eq agree fits.room]
        exact unlike
      · rw [next, fits.size_eq agree]
        exact ih

theorem First.transfer (first : format.First volume stop kind start place) :
    format.First other stop kind start place := by
  obtain ⟨⟨count, passes⟩, fits, same⟩ := first
  exact ⟨⟨count, passes.transfer agree⟩, fits.transfer agree, (kind_eq agree fits.room).trans same⟩

theorem Lacks.transfer (lacks : format.Lacks volume stop kind start) :
    format.Lacks other stop kind start := by
  obtain ⟨count, last, passes, ends⟩ := lacks
  exact ⟨count, last, passes.transfer agree, (ends_iff agree).mpr ends⟩

end Agree

end Format

end Volume

end PartitionBoot
