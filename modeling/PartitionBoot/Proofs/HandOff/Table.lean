import PartitionBoot.Proofs.HandOff
import PartitionBoot.Proofs.Image.Field
import PartitionBoot.Proofs.Window

/-!
The descriptor table of arbitrary bytes. A blob is accepted for its signature and its size; then
all descriptors that its header counts have to lie in it, and the first one of a manifest decides.
Nothing behind the size that a blob gives for itself is looked at.
-/

namespace PartitionBoot

namespace HandOff

variable {handOff : HandOff} {blob other : Window} {header : Header} {index : Nat}
  {list : List Descriptor}

def contentField : Nat := 24

def Header.place (header : Header) (index : Nat) : Nat :=
  header.descriptorOffset.toNat + index * header.descriptorSize.toNat

def Header.Fits (header : Header) (index : Nat) : Prop :=
  HandOff.descriptorSize ≤ header.descriptorSize.toNat ∧
    header.place index + HandOff.descriptorSize ≤ header.blobSize.toNat

instance (header : Header) (index : Nat) : Decidable (header.Fits index) :=
  inferInstanceAs (Decidable (_ ∧ _))

/-- All descriptors that the header counts lie in the blob. -/
def Header.Sound (header : Header) : Prop :=
  ∀ index < header.descriptorCount.toNat, header.Fits index

instance (header : Header) : Decidable header.Sound :=
  inferInstanceAs (Decidable (∀ index < _, _))

def Header.fault (header : Header) : ManifestFault :=
  if header.descriptorSize.toNat < HandOff.descriptorSize then .badStructure else .outOfBounds

def headerOf (blob : Window) : Header :=
  let word (offset : Nat) := UInt32.ofNat (blob.number ⟨offset, 4⟩)
  ⟨word 0, word 4, word 8, word 12, word 16, word 20⟩

def Acceptable (blob : Window) : Prop :=
  headerSize ≤ blob.size ∧ (headerOf blob).signature = signature ∧
    headerSize ≤ (headerOf blob).blobSize.toNat ∧ (headerOf blob).blobSize.toNat ≤ blob.size

/-- The blob without the bytes behind the size that it gives for itself. -/
def framed (blob : Window) : HandOff where
  header := headerOf blob
  blob := { blob with size := (headerOf blob).blobSize.toNat }

/-- The fields of a header end where its last word does, in front of bytes that are reserved. -/
def fieldsSize : Nat := 24

theorem ofWindow_result (whole : fieldsSize ≤ blob.size) :
    (ofWindow blob).result =
      if (headerOf blob).signature ≠ signature then
        .error (.manifestMissing (.handOffMagic (headerOf blob).signature))
      else if (headerOf blob).blobSize.toNat < headerSize ∨
          blob.size < (headerOf blob).blobSize.toNat then
        .error (.manifestMalformed .outOfBounds)
      else .ok (framed blob) := by
  rw [fieldsSize] at whole
  have signed : (UInt32.ofNat (blob.number ⟨0, 4⟩) != signature) = true ↔
      (headerOf blob).signature ≠ signature := bne_iff_ne
  have bounded : (decide ((headerOf blob).blobSize.toNat < headerSize) ||
      decide (blob.size < (headerOf blob).blobSize.toNat)) = true ↔
        (headerOf blob).blobSize.toNat < headerSize ∨
          blob.size < (headerOf blob).blobSize.toNat := by
    simp only [Bool.or_eq_true, decide_eq_true_eq]
  simp only [ofWindow, Window.le32?_inside (show 0 + 4 ≤ blob.size by omega), Report.result_bind,
    Report.result_require, Except.bind]
  simp only [signed]
  split
  · rfl
  · simp only [Window.le32?_inside (show 4 + 4 ≤ blob.size by omega),
      Window.le32?_inside (show 8 + 4 ≤ blob.size by omega), Window.le32?_inside (show 12 + 4 ≤ blob.size by omega),
      Window.le32?_inside (show 16 + 4 ≤ blob.size by omega), Window.le32?_inside (show 20 + 4 ≤ blob.size by omega),
      Report.result_bind, Report.result_require, Except.bind]
    refine (congrArg Report.result (ite_congr (propext bounded) (fun _ => rfl) fun _ => rfl)).trans ?_
    split
    · rfl
    · rfl

theorem fieldsSize_le_of_ofWindow (accepted : (ofWindow blob).result = .ok handOff) :
    fieldsSize ≤ blob.size := by
  obtain ⟨found, _, accepted⟩ := Report.bind_ok_iff.mp accepted
  split at accepted
  · cases accepted
  · simp only [Report.bind_ok_iff, Report.require_ok_iff] at accepted
    obtain ⟨_, _, _, _, _, _, _, _, _, last, _⟩ := accepted
    exact Window.le32?_bound last

theorem ofWindow_ok_iff :
    (ofWindow blob).result = .ok handOff ↔ Acceptable blob ∧ handOff = framed blob := by
  have least : fieldsSize ≤ headerSize := by decide
  constructor
  · intro accepted
    rw [ofWindow_result (fieldsSize_le_of_ofWindow accepted)] at accepted
    split at accepted
    · cases accepted
    · rename_i signed
      split at accepted
      · cases accepted
      · cases accepted
        refine ⟨⟨by omega, Decidable.not_not.mp signed, by omega, by omega⟩, rfl⟩
  · rintro ⟨⟨whole, signed, low, inside⟩, rfl⟩
    rw [ofWindow_result (by omega), if_neg (by rw [signed]; simp), if_neg (by omega)]

/-! The entries of a table. -/

def row (handOff : HandOff) (index : Nat) : Window :=
  { handOff.blob with
    base := handOff.blob.base + handOff.header.place index
    size := HandOff.descriptorSize }

def kindAt (handOff : HandOff) (index : Nat) : UInt8 := (handOff.row index).byte kindField

def contentAt (handOff : HandOff) (index : Nat) : UInt64 :=
  UInt64.ofNat ((handOff.row index).number ⟨contentField, 8⟩)

def Framed (handOff : HandOff) : Prop := handOff.blob.size = handOff.header.blobSize.toNat

theorem framed_framed (blob : Window) : (framed blob).Framed := rfl

theorem entry_result (whole : handOff.Framed) (index : Nat) :
    (handOff.entry index).result =
      if handOff.header.Fits index then .ok (handOff.row index)
      else .error (.manifestMalformed handOff.header.fault) := by
  rw [Framed] at whole
  simp only [entry, Header.Fits, Header.fault, Window.slice?, Header.place, row, whole,
    Nat.add_comm handOff.header.descriptorOffset.toNat]
  by_cases narrow : handOff.header.descriptorSize.toNat < HandOff.descriptorSize
  · rw [if_pos narrow, if_neg (by omega), if_pos narrow]
    rfl
  · rw [if_neg narrow, if_neg narrow]
    split
    · rename_i outside
      split at outside
      · cases outside
      · rw [if_neg (by omega)]
        rfl
    · rename_i raw inside
      split at inside
      · cases inside
        rw [if_pos (by omega)]
        rfl
      · cases inside

theorem descriptor_content (whole : handOff.Framed) (fits : handOff.header.Fits index) :
    ∃ found, (handOff.descriptor index).result = .ok found ∧
      found.content = handOff.contentAt index := by
  have entered := entry_result whole index
  rw [if_pos fits] at entered
  have wide : (handOff.row index).size = 32 := rfl
  have content : (handOff.row index).le64? 24 = some (handOff.contentAt index) := by
    rw [Window.le64?_eq, wide, if_pos (by decide)]
    rfl
  simp only [descriptor, Report.result_bind, entered, Except.bind, Window.le16?_eq,
    Window.le32?_eq, content, wide, Nat.reduceAdd, Nat.reduceLeDiff, if_true,
    Report.result_require, Report.result_pure]
  exact ⟨_, rfl, rfl⟩

theorem firstManifest_sound (whole : handOff.Framed) {count : Nat} (found : Option Nat)
    (fits : ∀ place, index ≤ place → place < index + count → handOff.header.Fits place) :
    (handOff.firstManifest index count found).result =
      .ok (found.or ((List.range' index count).find? fun place =>
        isManifestKind (handOff.kindAt place))) := by
  induction count generalizing index found with
  | zero => simp [firstManifest]
  | succ count ih =>
      have entered := entry_result whole index
      rw [if_pos (fits index (Nat.le_refl _) (by omega))] at entered
      have later := fun found => @ih (index + 1) found fun place low high =>
        fits place (by omega) (by omega)
      rw [firstManifest, List.range'_succ, List.find?_cons]
      simp only [entered, later]
      by_cases manifest : isManifestKind (handOff.kindAt index)
      · rw [show isManifestKind ((handOff.row index).byte kindField) = true from manifest, manifest]
        cases found <;> simp
      · rw [Bool.not_eq_true] at manifest
        rw [show isManifestKind ((handOff.row index).byte kindField) = false from manifest,
          manifest]
        cases found <;> simp

theorem firstManifest_fault (whole : handOff.Framed) {count place : Nat} (found : Option Nat)
    (low : index ≤ place) (high : place < index + count) (misfit : ¬ handOff.header.Fits place) :
    (handOff.firstManifest index count found).result =
      .error (.manifestMalformed handOff.header.fault) := by
  induction count generalizing index found with
  | zero => omega
  | succ count ih =>
      have entered := entry_result whole index
      rw [firstManifest]
      by_cases fits : handOff.header.Fits index
      · rw [if_pos fits] at entered
        simp only [entered]
        refine ih _ (Nat.lt_of_le_of_ne low ?_) (by omega)
        rintro rfl
        exact misfit fits
      · rw [if_neg fits] at entered
        simp only [entered]

def manifestIndex? (handOff : HandOff) : Option Nat :=
  (List.range handOff.header.descriptorCount.toNat).find? fun index =>
    isManifestKind (handOff.kindAt index)

def named (handOff : HandOff) : Except BootFailure UInt64 :=
  match handOff.manifestIndex? with
  | some index =>
      if handOff.contentAt index = 0 then .error (.manifestMissing .noManifestDescriptor)
      else .ok (handOff.contentAt index)
  | none => .error (.manifestMissing .noManifestDescriptor)

theorem manifestAddress_result (whole : handOff.Framed) :
    handOff.manifestAddress.result =
      if handOff.header.Sound then handOff.named
      else .error (.manifestMalformed handOff.header.fault) := by
  rw [manifestAddress, Report.result_bind]
  by_cases sound : handOff.header.Sound
  · rw [firstManifest_sound whole none fun place _ high => sound place (by omega), Option.none_or,
      ← List.range_eq_range', if_pos sound, named, ← manifestIndex?]
    simp only [Except.bind]
    cases first : handOff.manifestIndex? with
    | none => rfl
    | some index =>
        have inside := List.mem_range.mp (List.mem_of_find?_eq_some first)
        obtain ⟨found, read, content⟩ := descriptor_content whole (sound index inside)
        simp only [Report.result_bind, read, Except.bind, content]
        split
        · rfl
        · rfl
  · rw [if_neg sound]
    simp only [Header.Sound, Classical.not_forall] at sound
    obtain ⟨place, inside, misfit⟩ := sound
    rw [firstManifest_fault whole none (Nat.zero_le place) (by omega) misfit]
    rfl

/-! What the bytes of a blob decide. -/

/-- The first descriptor of a manifest in a blob holds this address. -/
def Leads (blob : Window) (address : UInt64) : Prop :=
  ∃ index < (headerOf blob).descriptorCount.toNat,
    blob.byte ((headerOf blob).place index + kindField) = 0 ∧
      (∀ earlier < index, blob.byte ((headerOf blob).place earlier + kindField) ≠ 0) ∧
      blob.number ⟨(headerOf blob).place index + contentField, 8⟩ = address.toNat

theorem kindAt_framed (blob : Window) (index : Nat) :
    (framed blob).kindAt index = blob.byte ((headerOf blob).place index + kindField) := by
  simp only [kindAt, row, framed, Window.byte, Nat.add_assoc]

theorem contentAt_framed (blob : Window) (index : Nat) :
    (framed blob).contentAt index =
      UInt64.ofNat (blob.number ⟨(headerOf blob).place index + contentField, 8⟩) := by
  simp only [contentAt, row, framed, Window.number, Nat.add_assoc]

theorem toNat_contentAt_framed (blob : Window) (index : Nat) :
    ((framed blob).contentAt index).toNat =
      blob.number ⟨(headerOf blob).place index + contentField, 8⟩ := by
  rw [contentAt_framed, UInt64.toNat_ofNat']
  exact Nat.mod_eq_of_lt (blob.number_lt ⟨_, 8⟩)

theorem isManifestKind_iff {kind : UInt8} : isManifestKind kind = true ↔ kind = 0 := by
  have plain : typeByte false deviceTreeKind = 0 := by decide
  rw [isManifestKind, plain, decide_eq_true_eq]

theorem manifestIndex?_framed : (framed blob).manifestIndex? = some index ↔
    index < (headerOf blob).descriptorCount.toNat ∧
      blob.byte ((headerOf blob).place index + kindField) = 0 ∧
      ∀ earlier < index, blob.byte ((headerOf blob).place earlier + kindField) ≠ 0 := by
  rw [manifestIndex?, List.find?_range_eq_some, List.mem_range, isManifestKind_iff, kindAt_framed]
  simp only [Bool.not_eq_true', ← Bool.not_eq_true, isManifestKind_iff, kindAt_framed]
  rw [and_left_comm]
  rfl

theorem named_framed_iff {address : UInt64} :
    (framed blob).named = .ok address ↔ Leads blob address ∧ address ≠ 0 := by
  rw [named]
  cases first : (framed blob).manifestIndex? with
  | none =>
      refine iff_of_false (fun told => by cases told) ?_
      rintro ⟨⟨index, inside, manifest, earlier, _⟩, _⟩
      rw [manifestIndex?_framed.mpr ⟨inside, manifest, earlier⟩] at first
      cases first
  | some index =>
      have leads : Leads blob address ↔ (framed blob).contentAt index = address := by
        rw [← UInt64.toNat_inj, toNat_contentAt_framed]
        constructor
        · rintro ⟨other, inside, manifest, earlier, held⟩
          rw [manifestIndex?_framed.mpr ⟨inside, manifest, earlier⟩] at first
          cases first
          exact held
        · intro held
          obtain ⟨inside, manifest, earlier⟩ := manifestIndex?_framed.mp first
          exact ⟨index, inside, manifest, earlier, held⟩
      rw [leads]
      dsimp only
      split
      · rename_i null
        exact iff_of_false (fun told => by cases told) fun ⟨same, present⟩ => present (same ▸ null)
      · rename_i present
        rw [Except.ok.injEq]
        exact ⟨fun same => ⟨same, same ▸ present⟩, And.left⟩

theorem named_error (handOff : HandOff) {failure : BootFailure}
    (failed : handOff.named = .error failure) :
    failure = .manifestMissing .noManifestDescriptor := by
  rw [named] at failed
  split at failed
  · split at failed
    · cases failed
      rfl
    · cases failed
  · cases failed
    rfl

/-- No place in a table leaves a word, so the checked sums and products are the plain ones. -/
theorem place_lt_size (inside : index < header.descriptorCount.toNat) :
    header.place index + HandOff.descriptorSize < UInt64.size := by
  have rows := header.descriptorCount.toNat_lt
  have stride := header.descriptorSize.toNat_lt
  have offset := header.descriptorOffset.toNat_lt
  have limit : UInt64.size = 18446744073709551616 := rfl
  have width : HandOff.descriptorSize = 32 := rfl
  have product : index * header.descriptorSize.toNat ≤ 4294967294 * 4294967295 :=
    Nat.mul_le_mul (by omega) (by omega)
  rw [Header.place]
  omega

theorem located_result (whole : max headerSize (headerOf blob).blobSize.toNat ≤ blob.size) :
    (ofWindow blob >>= manifestAddress).result =
      if (headerOf blob).signature ≠ signature then
        .error (.manifestMissing (.handOffMagic (headerOf blob).signature))
      else if (headerOf blob).blobSize.toNat < headerSize then
        .error (.manifestMalformed .outOfBounds)
      else if (headerOf blob).Sound then (framed blob).named
      else .error (.manifestMalformed (headerOf blob).fault) := by
  have least : fieldsSize ≤ headerSize := by decide
  have bounded : ((headerOf blob).blobSize.toNat < headerSize ∨
      blob.size < (headerOf blob).blobSize.toNat) ↔
        (headerOf blob).blobSize.toNat < headerSize := by
    omega
  rw [Report.result_bind, ofWindow_result (by omega)]
  simp only [bounded]
  split
  · rfl
  · split
    · rfl
    · exact manifestAddress_result (framed_framed blob)

/-! Nothing is read behind the size that a blob gives for itself. -/

/-- Two blobs hold the same bytes as far as a header and the size in the first one reach. -/
structure Alike (blob other : Window) : Prop where
  whole : max headerSize (headerOf blob).blobSize.toNat ≤ blob.size
  reaches : max headerSize (headerOf blob).blobSize.toNat ≤ other.size
  same : ∀ offset < max headerSize (headerOf blob).blobSize.toNat,
    other.byte offset = blob.byte offset

namespace Alike

theorem number (alike : Alike blob other) {field : Field}
    (inside : field.span.stop ≤ max headerSize (headerOf blob).blobSize.toNat) :
    other.number field = blob.number field :=
  Window.number_congr fun offset covers =>
    alike.same offset (Nat.lt_of_lt_of_le covers.2 inside)

theorem headerOf_eq (alike : Alike blob other) : headerOf other = headerOf blob := by
  have field (offset : Nat) (inside : offset + 4 ≤ headerSize) :
      other.number ⟨offset, 4⟩ = blob.number ⟨offset, 4⟩ :=
    alike.number (Nat.le_trans inside (Nat.le_max_left _ _))
  simp only [headerOf, field 0 (by decide), field 4 (by decide), field 8 (by decide),
    field 12 (by decide), field 16 (by decide), field 20 (by decide)]

theorem named (alike : Alike blob other) (sound : (headerOf blob).Sound) :
    (framed other).named = (framed blob).named := by
  have header := alike.headerOf_eq
  have width : HandOff.descriptorSize = 32 := rfl
  have inside (index : Nat) (counted : index < (headerOf blob).descriptorCount.toNat) :
      (headerOf blob).place index + 32 ≤ max headerSize (headerOf blob).blobSize.toNat :=
    Nat.le_trans (sound index counted).2 (Nat.le_max_right _ _)
  have kinds (index : Nat) (counted : index < (headerOf blob).descriptorCount.toNat) :
      (framed other).kindAt index = (framed blob).kindAt index := by
    have within := inside index counted
    rw [kindAt_framed, kindAt_framed, header]
    exact alike.same _ (by rw [kindField]; omega)
  have contents (index : Nat) (counted : index < (headerOf blob).descriptorCount.toNat) :
      (framed other).contentAt index = (framed blob).contentAt index := by
    have within := inside index counted
    rw [contentAt_framed, contentAt_framed, header]
    exact congrArg _ (alike.number (by simp only [Field.span, contentField]; omega))
  have first : (framed other).manifestIndex? = (framed blob).manifestIndex? := by
    refine Option.ext fun index => ?_
    rw [manifestIndex?_framed, manifestIndex?_framed, header]
    refine and_congr_right fun counted => ?_
    rw [← kindAt_framed blob, ← kinds index counted, kindAt_framed other, header]
    refine and_congr_right fun _ => forall_congr' fun earlier => imp_congr_right fun before => ?_
    rw [← kindAt_framed blob, ← kinds earlier (by omega), kindAt_framed other, header]
  rw [HandOff.named, HandOff.named, first]
  cases found : (framed blob).manifestIndex? with
  | none => rfl
  | some index =>
      obtain ⟨counted, _⟩ := manifestIndex?_framed.mp found
      simp only [contents index counted]

theorem located (alike : Alike blob other) :
    (ofWindow other >>= manifestAddress).result = (ofWindow blob >>= manifestAddress).result := by
  have header := alike.headerOf_eq
  have reaches := alike.reaches
  rw [← header] at reaches
  rw [located_result alike.whole, located_result reaches, header]
  refine ite_congr rfl (fun _ => rfl) fun _ => ite_congr rfl (fun _ => rfl) fun _ => ?_
  exact ite_congr rfl alike.named fun _ => rfl

end Alike

end HandOff

end PartitionBoot
