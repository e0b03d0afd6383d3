import PartitionBoot.Proofs.Outcome
import PartitionBoot.Proofs.Volume.Layout

/-!
The sections of a file as they are found: each where it was laid out, up to the first one of the
wanted kind.
-/

namespace PartitionBoot

namespace Volume

variable {window : Window} {leaf : FlatSection} {list : List FlatSection} {fill : Nat → UInt8}
  {start place offset stop : Nat}

theorem shown_header (shown : window.Shows offset leaf.bytes) (fits : leaf.Fits) :
    window.byte (offset + 3) = leaf.kind ∧
      ∃ short, window.le24? offset = some short ∧ decide (short = sizeEscape) = leaf.large ∧
        if leaf.large then window.le32? (offset + 4) = some (UInt32.ofNat leaf.size)
        else short.toNat = leaf.size := by
  have header := shown.front
  simp only [FlatSection.header, FlatSection.Fits] at header fits
  cases large : leaf.large with
  | true =>
      rw [large, if_pos rfl] at header
      have short := header.front.le24 (by decide)
      have rest := header.back
      simp only [length_littleEndian] at rest
      refine ⟨rest.front.byte, _, short, by decide, ?_⟩
      rw [if_pos rfl]
      exact rest.back.le32
  | false =>
      rw [large, if_neg Bool.false_ne_true] at header fits
      have escape : sizeEscape.toNat = 0xffffff := rfl
      have power : Nat.pow 256 3 = 0x1000000 := rfl
      have value : (UInt32.ofNat leaf.size).toNat = leaf.size := by
        rw [UInt32.toNat_ofNat']
        exact Nat.mod_eq_of_lt (by omega)
      have rest := header.back
      rw [length_littleEndian] at rest
      refine ⟨rest.byte, _, header.front.le24 (by omega), ?_, ?_⟩
      · refine decide_eq_false fun same => ?_
        rw [← UInt32.toNat_inj, value] at same
        omega
      · rw [if_neg Bool.false_ne_true]
        exact value

theorem sectionAt_shown (shown : window.Shows offset leaf.bytes) (fits : leaf.Fits)
    (inside : offset + leaf.size ≤ stop) :
    ∃ entry, (sectionAt window offset stop).result = .ok entry ∧ entry.kind = leaf.kind ∧
      entry.headerSize = sectionHeaderSize leaf.large ∧ entry.size = leaf.size := by
  obtain ⟨kind, short, shortRead, large, rest⟩ := shown_header shown fits
  have within : sectionHeaderSize leaf.large ≤ leaf.size ∧ offset + leaf.size ≤ stop :=
    ⟨Nat.le_add_right _ _, inside⟩
  refine ⟨⟨leaf.kind, sectionHeaderSize leaf.large, leaf.size, sectionHeaderSize_pos _, within.1⟩,
    ?_, rfl, rfl, rfl⟩
  simp only [sectionAt, Report.bind_ok_iff, Report.require_ok_iff, kind]
  refine ⟨short, shortRead, ?_⟩
  simp only [large]
  split <;> rename_i long
  · rw [if_pos long] at rest
    have value : (UInt32.ofNat leaf.size).toNat = leaf.size := by
      rw [FlatSection.Fits, if_pos long] at fits
      exact UInt32.toNat_ofNat_of_lt fits
    simp only [Report.bind_ok_iff, Report.require_ok_iff]
    refine ⟨_, rest, leaf.size, congrArg Except.ok value, ?_⟩
    rw [dif_pos within]
    rfl
  · rw [if_neg long] at rest
    simp only [Report.bind_ok_iff]
    refine ⟨leaf.size, congrArg Except.ok rest, ?_⟩
    rw [dif_pos within]
    rfl

theorem shown_cons (aligned : start % 4 = 0)
    (shown : window.Shows (start + place) (sectionBytes fill place (leaf :: list))) :
    alignUp (start + place) 4 = start + alignUp place 4 ∧
      window.Shows (start + alignUp place 4) leaf.bytes ∧
      window.Shows (start + (alignUp place 4 + leaf.size))
        (sectionBytes fill (alignUp place 4 + leaf.size) list) := by
  have low := le_alignUp place (show 0 < 4 by decide)
  have behind := shown.back
  rw [length_gap, show start + place + (alignUp place 4 - place) = start + alignUp place 4 by
    omega] at behind
  have further := behind.back
  rw [FlatSection.length_bytes, Nat.add_assoc] at further
  refine ⟨?_, behind.front, further⟩
  simp only [alignUp]
  omega

theorem shown_of_mem_placeSections (place : Nat) (aligned : start % 4 = 0)
    (shown : window.Shows (start + place) (sectionBytes fill place list)) :
    ∀ placed ∈ placeSections (start + place) list,
      window.Shows placed.start placed.leaf.bytes := by
  induction list generalizing place with
  | nil => simp [placeSections]
  | cons leaf rest ih =>
      obtain ⟨here, first, further⟩ := shown_cons aligned shown
      rw [placeSections, here, Nat.add_assoc, List.forall_mem_cons]
      exact ⟨first, ih _ further⟩

theorem findSection_shown (wanted : UInt8) (place : Nat) (aligned : start % 4 = 0)
    (shown : window.Shows (start + place) (sectionBytes fill place list))
    (fits : ∀ leaf ∈ list, leaf.Fits)
    (all : stop = start + place + (sectionBytes fill place list).length) :
    (findSection window wanted (alignUp (start + place) 4) stop).result =
      .ok (((placeSections (start + place) list).find? fun found =>
        found.leaf.kind = wanted).map PlacedSection.location) := by
  induction list generalizing place with
  | nil =>
      have full : ¬ alignUp (start + place) 4 + sectionHeaderSize false ≤ stop := by
        have header : sectionHeaderSize false = 4 := rfl
        have low := le_alignUp (start + place) (show 0 < 4 by decide)
        simp only [sectionBytes, List.length_nil] at all
        omega
      rw [findSection, dif_neg full]
      rfl
  | cons leaf rest ih =>
      obtain ⟨here, first, further⟩ := shown_cons aligned shown
      have low := le_alignUp place (show 0 < 4 by decide)
      simp only [sectionBytes, List.length_append, length_gap, FlatSection.length_bytes] at all
      have inside : start + alignUp place 4 + leaf.size ≤ stop := by omega
      obtain ⟨entry, read, kind, headerSize, size⟩ :=
        sectionAt_shown first (fits leaf List.mem_cons_self) inside
      have more := ih _ further (fun leaf member => fits leaf (List.mem_cons_of_mem _ member))
        (by omega)
      have room : start + alignUp place 4 + sectionHeaderSize false ≤ stop := by
        have header : sectionHeaderSize false ≤ leaf.size :=
          Nat.le_trans (by cases leaf.large <;> decide) (Nat.le_add_right _ leaf.data.length)
        omega
      rw [here, findSection, dif_pos room, Report.result_bind, read, placeSections, here,
        List.find?_cons]
      simp only [Except.bind]
      by_cases hit : leaf.kind = wanted
      · rw [if_pos (kind.trans hit)]
        simp only [Report.result_pure, hit, decide_true, Option.map_some, PlacedSection.location,
          kind, headerSize, size, FlatSection.size, Nat.add_sub_cancel_left]
      · rw [if_neg (by rwa [kind]), size, Nat.add_assoc]
        simp only [hit, decide_false]
        exact more

theorem mem_of_imageOf {placed : List PlacedSection} {found : PlacedSection}
    (image : imageOf placed = some found) : found ∈ placed := by
  rcases Option.or_eq_some_iff.mp image with first | ⟨_, second⟩
  · exact List.mem_of_find?_eq_some first
  · exact List.mem_of_find?_eq_some second

theorem findImage_shown (aligned : start % 4 = 0)
    (shown : window.Shows start (sectionBytes fill 0 list)) (fits : ∀ leaf ∈ list, leaf.Fits)
    (all : stop = start + (sectionBytes fill 0 list).length) :
    (findImage window start stop).result =
      .ok ((imageOf (placeSections start list)).map PlacedSection.location) := by
  have search (wanted : UInt8) := findSection_shown wanted 0 aligned shown fits all
  have first : alignUp start 4 = start := by
    simp only [alignUp]
    omega
  rw [Nat.add_zero, first] at search
  rw [findImage, Report.result_bind, search, imageOf]
  simp only [Except.bind]
  cases (placeSections start list).find? fun found => found.leaf.kind = pe32Kind with
  | some found => rfl
  | none => exact search teKind

end Volume

end PartitionBoot
