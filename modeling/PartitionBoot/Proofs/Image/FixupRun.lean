import PartitionBoot.Proofs.Image.FixupTable

/-!
The loops of a move. They read the table from the image that they change; because no field they
shift reaches into the table, what they read is what the image held at first, and the fields
shifted so far are the first ones of the table.
-/

namespace PartitionBoot

namespace Fixup

variable {context : ImageContext} {delta : UInt64} {original current later image : Window}
  {field other : Field} {done : List Field} {offset : Nat}

structure Raised (delta : UInt64) (done : List Field) (original current : Window) : Prop where
  follows : current.Follows original
  raised : ∀ field ∈ done, current.number field = original.raised field delta.toNat
  kept : ∀ offset, (∀ field ∈ done, ¬ field.span.Covers offset) →
    current.byte offset = original.byte offset

namespace Raised

theorem refl (delta : UInt64) (image : Window) : Raised delta [] image image where
  follows := Window.Follows.refl image
  raised := by simp
  kept _ _ := rfl

theorem number_apart (raised : Raised delta done original current)
    (apart : ∀ field ∈ done, field.span.Apart other.span) :
    current.number other = original.number other :=
  Window.number_congr fun offset covers =>
    raised.kept offset fun field member => (apart field member).not_covers covers

theorem set (raised : Raised delta done original current)
    (sets : later.Sets current field (current.raised field delta.toNat))
    (apart : ∀ other ∈ done, other.span.Apart field.span) :
    Raised delta (done ++ [field]) original later where
  follows := sets.follows.trans raised.follows
  raised other member := by
    rcases List.mem_append.mp member with old | new
    · rw [sets.number_apart (apart other old).symm]
      exact raised.raised other old
    · rw [List.mem_singleton.mp new, sets.stored, Window.raised, raised.number_apart apart]
      rfl
  kept offset outside := by
    rw [sets.kept offset (outside field (by simp))]
    exact raised.kept offset fun other member => outside other (by simp [member])

end Raised

theorem shift32?_eq (image : Window) (offset : Nat) (delta : UInt64) :
    shift32? image offset delta.toUInt32 =
      image.put? offset (littleEndian 4 (image.raised ⟨offset, 4⟩ delta.toNat)) := by
  have value : (UInt32.ofNat (image.number ⟨offset, 4⟩) + delta.toUInt32).toNat =
      image.raised ⟨offset, 4⟩ delta.toNat := by
    simp [Window.raised]
  simp only [shift32?, Window.le32?_eq, Option.bind_eq_bind, Window.putLe32?]
  split
  · rw [Option.bind_some, value]
  · rw [Window.put?_none (by rw [length_littleEndian]; omega)]
    rfl

theorem shift64?_eq (image : Window) (offset : Nat) (delta : UInt64) :
    shift64? image offset delta =
      image.put? offset (littleEndian 8 (image.raised ⟨offset, 8⟩ delta.toNat)) := by
  have value : (UInt64.ofNat (image.number ⟨offset, 8⟩) + delta).toNat =
      image.raised ⟨offset, 8⟩ delta.toNat := by
    simp [Window.raised]
  simp only [shift64?, Window.le64?_eq, Option.bind_eq_bind, Window.putLe64?]
  split
  · rw [Option.bind_some, value]
  · rw [Window.put?_none (by rw [length_littleEndian]; omega)]
    rfl

section Apply

variable {page : UInt32} {raw : UInt16} {stop : Nat}

theorem field?_eq (shifts : kindOf raw = 3 ∨ kindOf raw = 10) :
    (Item.entry page raw).field? context =
      (context.offsetOf? (targetOf page raw)).map fun offset =>
        ⟨offset, if kindOf raw = 3 then 4 else 8⟩ := by
  rcases shifts with kind | kind <;> simp [Item.field?, kind]

theorem apply_shift (shifts : kindOf raw = 3 ∨ kindOf raw = 10) :
    apply context delta page raw image =
      match ((Item.entry page raw).field? context).bind fun field =>
        image.put? field.offset (littleEndian field.width (image.raised field delta.toNat)) with
      | some later => .ok later
      | none => .error (.outOfBounds (targetOf page raw)) := by
  rw [field?_eq shifts]
  rcases shifts with kind | kind <;>
    simp only [apply, kind, Option.bind_map, Function.comp_def, shift32?_eq, shift64?_eq] <;> rfl

theorem apply_sound (delta : UInt64)
    (sound : (Item.entry page raw).Sound context image.size stop) :
    ∃ later, apply context delta page raw image = .ok later ∧
      ((Item.entry page raw).field? context = none ∧ later = image ∨
        ∃ field, (Item.entry page raw).field? context = some field ∧
          later.Sets image field (image.raised field delta.toNat)) := by
  rcases sound with kind | ⟨shifts, field, asked, inside⟩
  · exact ⟨image, by simp [apply, kind], Or.inl ⟨by simp [Item.field?, kind], rfl⟩⟩
  · rw [Option.mem_def] at asked
    obtain ⟨later, stored, sets⟩ :=
      Window.put?_sets inside (image.raised_lt field delta.toNat)
    refine ⟨later, ?_, Or.inr ⟨field, asked, sets⟩⟩
    rw [apply_shift shifts, asked, Option.bind_some, stored]

theorem apply_unsound (unsound : ¬ (Item.entry page raw).Sound context image.size stop) :
    apply context delta page raw image = .error (Item.entry page raw).error := by
  simp only [Item.Sound, not_or, not_and, not_exists, Option.mem_def, Nat.not_le] at unsound
  obtain ⟨kind, outside⟩ := unsound
  by_cases shifts : kindOf raw = 3 ∨ kindOf raw = 10
  · rw [apply_shift shifts, Item.error, if_pos shifts]
    cases asked : (Item.entry page raw).field? context with
    | none => rfl
    | some field =>
        rw [Option.bind_some, Window.put?_none]
        rw [length_littleEndian]
        exact outside shifts field asked
  · rw [Item.error, if_neg shifts]
    rw [not_or] at shifts
    simp [apply, kind, shifts]

end Apply

section Run

variable {table : Span} {item : Item} {list more rest : List Item} {applied count : Nat}
  {outcome next : Outcome}

/-- A move under way. Some fields were raised; what the items to come ask to shift lies apart from
these fields, and nothing that is shifted reaches into the table. -/
structure Underway (context : ImageContext) (delta : UInt64) (table : Span) (original : Window)
    (done : List Field) (rest : List Item) (current : Window) : Prop where
  raised : Raised delta done original current
  apart : (done ++ fieldsOf context original.size table.stop rest).Pairwise
    fun left right => left.span.Apart right.span
  clear : ∀ field ∈ done ++ fieldsOf context original.size table.stop rest,
    field.span.Apart table

namespace Underway

theorem number_eq (underway : Underway context delta table original done rest current)
    (within : other.span.Within table) : current.number other = original.number other :=
  underway.raised.number_apart fun field member =>
    (underway.clear field (List.mem_append_left _ member)).mono_right within

theorem advance (underway : Underway context delta table original done (item :: rest) current)
    (sound : item.Sound context original.size table.stop)
    (change : item.field? context = none ∧ later = current ∨
      ∃ field, item.field? context = some field ∧
        later.Sets current field (current.raised field delta.toNat)) :
    Underway context delta table original (done ++ (item.field? context).toList) rest later := by
  obtain ⟨raised, apart, clear⟩ := underway
  rw [fieldsOf_cons_sound sound, ← List.append_assoc] at apart clear
  refine ⟨?_, apart, clear⟩
  rcases change with ⟨asked, rfl⟩ | ⟨field, asked, sets⟩
  · rw [asked, Option.toList_none, List.append_nil]
    exact raised
  · rw [asked, Option.toList_some] at apart ⊢
    refine raised.set sets fun other member => ?_
    exact (List.pairwise_append.mp (List.pairwise_append.mp apart).1).2.2 other member field
      (List.mem_singleton_self field)

end Underway

/-- What performing items of a table on an image comes to: the error of the first one that is not
sound, or all their fields raised and the items behind them still to come. -/
def Outcome.Performs (outcome : Outcome) (context : ImageContext) (delta : UInt64) (table : Span)
    (original : Window) (done : List Field) (applied : Nat) (list rest : List Item) : Prop :=
  (∃ item, list.find? (fun item => ¬ item.Sound context original.size table.stop) = some item ∧
      outcome.result = .error item.error) ∨
    (∀ item ∈ list, item.Sound context original.size table.stop) ∧
      outcome.result = .ok (applied + list.countP Item.isEntry) ∧
      Underway context delta table original (done ++ list.filterMap (Item.field? context)) rest
        outcome.image

namespace Outcome.Performs

theorem nil (underway : Underway context delta table original done rest current) :
    Performs ⟨current, .ok applied⟩ context delta table original done applied [] rest :=
  Or.inr ⟨by simp, rfl, by simpa using underway⟩

theorem offender (unsound : ¬ item.Sound context original.size table.stop) :
    Performs ⟨current, .error item.error⟩ context delta table original done applied
      (item :: list) rest :=
  Or.inl ⟨item, by simp [unsound], rfl⟩

theorem cons (sound : item.Sound context original.size table.stop)
    (performs : outcome.Performs context delta table original
      (done ++ (item.field? context).toList) (applied + if item.isEntry then 1 else 0) list rest) :
    outcome.Performs context delta table original done applied (item :: list) rest := by
  rcases performs with ⟨found, first, failed⟩ | ⟨all, result, underway⟩
  · exact Or.inl ⟨found, by simpa [sound] using first, failed⟩
  · refine Or.inr ⟨by simpa [sound] using all, ?_, ?_⟩
    · rw [result, List.countP_cons, Nat.add_assoc, Nat.add_comm (List.countP _ _)]
    · have fields : done ++ (item :: list).filterMap (Item.field? context) =
          done ++ (item.field? context).toList ++ list.filterMap (Item.field? context) := by
        rw [List.filterMap_cons, List.append_assoc]
        cases item.field? context <;> rfl
      rw [fields]
      exact underway

theorem append_failed (performs : outcome.Performs context delta table original done applied list
      (more ++ rest)) {error : RelocationError} (failed : outcome.result = .error error) :
    outcome.Performs context delta table original done applied (list ++ more) rest := by
  rcases performs with ⟨item, first, result⟩ | ⟨_, result, _⟩
  · exact Or.inl ⟨item, by rw [List.find?_append, first]; rfl, result⟩
  · rw [failed] at result
    cases result

theorem append (performs : outcome.Performs context delta table original done applied list
      (more ++ rest)) (result : outcome.result = .ok count)
    (further : Underway context delta table original
        (done ++ list.filterMap (Item.field? context)) (more ++ rest) outcome.image →
      next.Performs context delta table original (done ++ list.filterMap (Item.field? context))
        count more rest) :
    next.Performs context delta table original done applied (list ++ more) rest := by
  rcases performs with ⟨item, _, failed⟩ | ⟨all, reached, underway⟩
  · rw [failed] at result
    cases result
  · rw [result, Except.ok.injEq] at reached
    subst count
    rcases further underway with ⟨item, first, failed⟩ | ⟨later, total, done⟩
    · refine Or.inl ⟨item, ?_, failed⟩
      rw [List.find?_append, List.find?_eq_none.mpr (by simpa using all), first]
      rfl
    · refine Or.inr ⟨?_, ?_, ?_⟩
      · intro item member
        exact (List.mem_append.mp member).elim (all item) (later item)
      · rw [total, List.countP_append, Nat.add_assoc]
      · rwa [List.filterMap_append, ← List.append_assoc]

end Outcome.Performs

theorem Underway.applyAt {block : Nat} {page : UInt32} {entry : Item}
    (underway : Underway context delta table original done (entry :: rest) current)
    (read : entry = .entry page (UInt16.ofNat (original.number ⟨offset, 2⟩)))
    (within : Span.Within ⟨offset, offset + 2⟩ table) (inside : table.stop ≤ original.size) :
    ¬ entry.Sound context original.size table.stop ∧
        applyAt context delta block page offset current = .error entry.error ∨
      entry.Sound context original.size table.stop ∧
        ∃ later, applyAt context delta block page offset current = .ok later ∧
          Underway context delta table original (done ++ (entry.field? context).toList) rest
            later := by
  have size := underway.raised.follows.size
  have held : current.number ⟨offset, 2⟩ = original.number ⟨offset, 2⟩ :=
    underway.number_eq within
  have raw : current.le16? offset = some (UInt16.ofNat (original.number ⟨offset, 2⟩)) := by
    rw [Window.le16?_eq, if_pos (by rw [size]; exact Nat.le_trans within.2 inside), held]
  subst read
  simp only [Fixup.applyAt, raw]
  by_cases sound : (Item.entry page (UInt16.ofNat (original.number ⟨offset, 2⟩))).Sound context
      original.size table.stop
  · obtain ⟨later, applied, change⟩ := apply_sound delta (by rwa [size])
    exact Or.inr ⟨sound, later, applied, underway.advance sound change⟩
  · exact Or.inl ⟨sound, apply_unsound (by rwa [size])⟩

theorem Underway.header {start : Nat}
    (underway : Underway context delta table original done rest current)
    (low : table.start ≤ start) (room : start + blockHeaderSize ≤ table.stop)
    (inside : table.stop ≤ original.size) :
    current.le32? start = some (UInt32.ofNat (original.number ⟨start, 4⟩)) ∧
      ∃ size, current.le32? (start + 4) = some size ∧
        size.toNat = original.number ⟨start + 4, 4⟩ := by
  have size := underway.raised.follows.size
  have eight : blockHeaderSize = 8 := rfl
  have page : Span.Within (Field.span ⟨start, 4⟩) table := ⟨low, by simp only [Field.span]; omega⟩
  have length : Span.Within (Field.span ⟨start + 4, 4⟩) table :=
    ⟨Nat.le_add_right_of_le low, by simp only [Field.span]; omega⟩
  rw [Window.le32?_eq, if_pos (by omega), underway.number_eq page, Window.le32?_eq,
    if_pos (by omega), underway.number_eq length]
  refine ⟨rfl, _, rfl, ?_⟩
  rw [UInt32.toNat_ofNat']
  exact Nat.mod_eq_of_lt (original.number_lt ⟨start + 4, 4⟩)

theorem applyEntries_performs {block stop : Nat} {page : UInt32}
    (underway : Underway context delta table original done
      (entries original page stop offset ++ rest) current)
    (within : Span.Within ⟨offset, stop⟩ table) (inside : table.stop ≤ original.size) :
    (applyEntries context delta block stop page offset applied current).Performs context delta
      table original done applied (entries original page stop offset) rest := by
  fun_induction applyEntries context delta block stop page offset applied current
    generalizing done with
  | case1 offset applied current room error failed =>
      rw [entries, if_pos room] at underway ⊢
      rcases underway.applyAt rfl ⟨within.1, Nat.le_trans room within.2⟩ inside with
        ⟨unsound, ended⟩ | ⟨_, later, reached, _⟩
      · rw [failed, Except.error.injEq] at ended
        rw [ended]
        exact .offender unsound
      · rw [failed] at reached
        cases reached
  | case2 offset applied current room later reached ih =>
      rw [entries, if_pos room] at underway ⊢
      rcases underway.applyAt rfl ⟨within.1, Nat.le_trans room within.2⟩ inside with
        ⟨_, failed⟩ | ⟨sound, next, done, further⟩
      · rw [reached] at failed
        cases failed
      · rw [reached, Except.ok.injEq] at done
        subst next
        exact .cons sound (ih further ⟨Nat.le_trans within.1 (Nat.le_add_right _ _), within.2⟩)
  | case3 offset applied current full =>
      rw [entries, if_neg full] at underway ⊢
      exact .nil underway

theorem applyEntries_performs_block {start : Nat} {page size : UInt32}
    (underway : Underway context delta table original done
      (items original table.stop start) current)
    (low : table.start ≤ start) (room : start + blockHeaderSize ≤ table.stop)
    (inside : table.stop ≤ original.size) (pageRead : current.le32? start = some page)
    (sizeRead : current.le32? (start + 4) = some size)
    (fits : blockHeaderSize ≤ size.toNat ∧ start + size.toNat ≤ table.stop) :
    ∃ block, items original table.stop start =
        block ++ items original table.stop (start + size.toNat) ∧
      (applyEntries context delta start (start + size.toNat) page (start + blockHeaderSize) applied
        current).Performs context delta table original done applied block
        (items original table.stop (start + size.toNat)) := by
  obtain ⟨pageHeld, _, sizeHeld, length⟩ := underway.header low room inside
  rw [pageRead, Option.some.injEq] at pageHeld
  rw [sizeRead, Option.some.injEq] at sizeHeld
  subst sizeHeld
  have decoded : items original table.stop start = _ := items_block room (by rwa [← length])
  rw [← length, ← pageHeld] at decoded
  rw [decoded] at underway
  refine ⟨_ :: _, decoded, .cons fits ?_⟩
  exact applyEntries_performs (underway.advance fits (Or.inl ⟨rfl, rfl⟩))
    ⟨Nat.le_add_right_of_le low, fits.2⟩ inside

theorem applyBlocks_performs {start : Nat} (applied : Nat)
    (underway : Underway context delta table original done
      (items original table.stop start) current)
    (low : table.start ≤ start) (inside : table.stop ≤ original.size) :
    (applyBlocks context delta table.stop start applied current).Performs context delta table
      original done applied (items original table.stop start) [] := by
  -- The loop runs on the changed image, its items come from the first one: Underway relates them.
  fun_induction applyBlocks context delta table.stop start applied current generalizing done with
  | case1 start applied current room page size sizeRead pageRead fits outcome error =>
      rename_i failed
      obtain ⟨block, decoded, performs⟩ :=
        applyEntries_performs_block underway low room inside pageRead sizeRead fits
      rw [decoded]
      exact .append_failed (by rwa [List.append_nil]) failed
  | case2 start applied current room page size sizeRead pageRead fits outcome count =>
      rename_i reached ih
      obtain ⟨block, decoded, performs⟩ :=
        applyEntries_performs_block underway low room inside pageRead sizeRead fits
      rw [decoded]
      refine .append (by rwa [List.append_nil]) reached fun further => ?_
      rw [List.append_nil] at further
      exact ih further (Nat.le_add_right_of_le low)
  | case3 start applied current room page size sizeRead pageRead misfit =>
      obtain ⟨_, _, sizeHeld, length⟩ := underway.header low room inside
      rw [sizeRead, Option.some.injEq] at sizeHeld
      subst sizeHeld
      rw [length] at misfit
      rw [items_misfit room misfit]
      exact .offender misfit
  | case4 start applied current room unread =>
      obtain ⟨pageHeld, size, sizeHeld, _⟩ := underway.header low room inside
      exact absurd sizeHeld (unread _ size pageHeld)
  | case5 start applied current full =>
      rw [items_full full] at underway ⊢
      exact .nil underway

end Run

end Fixup

end PartitionBoot
