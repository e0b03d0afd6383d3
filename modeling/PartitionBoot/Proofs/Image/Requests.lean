import PartitionBoot.Proofs.Image.Addresses
import PartitionBoot.Proofs.Image.Confined
import PartitionBoot.Proofs.Image.SectionAccess
import PartitionBoot.Proofs.Supervisor.Requests

/-!
The requests of a load. What a load asks for follows from the headers of its image: the changes of
its sections in the order of their table, up to the first one without an address, and around a move
those of the header page. A load asks in this order until it is refused.
-/

namespace PartitionBoot

variable {σ : Type}

namespace PagePermissions

variable {τ ρ : Type} {permissions : PagePermissions τ} {asked : PermissionRequest}
  {before all : List PermissionRequest} {error : CallError} {world reached : τ × ρ}

theorem answer_inside :
    (permissions.inside.answer asked).outcome world =
      (((permissions.answer asked).outcome world.1).1,
        ((permissions.answer asked).outcome world.1).2, world.2) := rfl

theorem grants_inside :
    permissions.inside.Grants all world reached ↔
      permissions.Grants all world.1 reached.1 ∧ reached.2 = world.2 := by
  induction all generalizing world with
  | nil =>
      simp only [Grants]
      exact Prod.ext_iff
  | cons asked rest ih =>
      simp only [Grants, answer_inside, ih]
      constructor
      · rintro ⟨middle, granted, later, same⟩
        obtain ⟨good, rfl⟩ := Prod.mk.inj granted
        exact ⟨⟨_, Prod.ext good rfl, later⟩, same⟩
      · rintro ⟨⟨middle, granted, later⟩, same⟩
        exact ⟨(middle, world.2), by rw [granted], later, same⟩

theorem Grants.inside {state last : τ} (granted : permissions.Grants all state last) (rest : ρ) :
    permissions.inside.Grants all (state, rest) (last, rest) :=
  grants_inside.mpr ⟨granted, rfl⟩

theorem Refuses.inside {state last : τ}
    (refuses : permissions.Refuses before asked error state last) (rest : ρ) :
    permissions.inside.Refuses before asked error (state, rest) (last, rest) := by
  obtain ⟨middle, granted, refused⟩ := refuses
  exact ⟨(middle, rest), granted.inside rest, by rw [answer_inside, refused]⟩

end PagePermissions

namespace ImageSection

def changes (entry : ImageSection) : List PermissionChange :=
  if entry.isCode then [.setReadOnly]
  else if entry.isWritable then [.setNoExec, .clearReadOnly]
  else [.setNoExec, .setReadOnly]

def requests (entry : ImageSection) (base : UInt64) : List PermissionRequest :=
  PermissionRequest.each entry.changes base entry.size.toUInt64

end ImageSection

/-- The requests for the sections of a list, up to the first one without an address. -/
def ImageLayout.requests (layout : ImageLayout) : List ImageSection → List PermissionRequest
  | [] => []
  | entry :: rest =>
      if entry.size = 0 then layout.requests rest
      else
        match layout.addressOf? entry.rva with
        | none => []
        | some base => entry.requests base ++ layout.requests rest

def ImageLayout.Addresses (layout : ImageLayout) (sections : List ImageSection) : Prop :=
  ∀ entry ∈ sections, entry.size ≠ 0 → (layout.addressOf? entry.rva).isSome

instance (layout : ImageLayout) (sections : List ImageSection) :
    Decidable (layout.Addresses sections) :=
  inferInstanceAs (Decidable (∀ _ ∈ _, _))

namespace ImageLayout

variable {layout : ImageLayout} {entry : ImageSection} {rest : List ImageSection} {base : UInt64}

theorem requests_cons_empty (empty : entry.size = 0) :
    layout.requests (entry :: rest) = layout.requests rest := by
  rw [requests, if_pos empty]

theorem addresses_cons_empty (empty : entry.size = 0) :
    layout.Addresses (entry :: rest) ↔ layout.Addresses rest := by
  simp [Addresses, empty]

theorem requests_cons (sized : entry.size ≠ 0)
    (addressed : layout.addressOf? entry.rva = some base) :
    layout.requests (entry :: rest) = entry.requests base ++ layout.requests rest := by
  rw [requests, if_neg sized, addressed]

theorem addresses_cons (addressed : layout.addressOf? entry.rva = some base) :
    layout.Addresses (entry :: rest) ↔ layout.Addresses rest := by
  simp [Addresses, addressed]

theorem requests_cons_lost (sized : entry.size ≠ 0) (lost : layout.addressOf? entry.rva = none) :
    layout.requests (entry :: rest) = [] := by
  rw [requests, if_neg sized, lost]

theorem not_addresses_cons (sized : entry.size ≠ 0) (lost : layout.addressOf? entry.rva = none) :
    ¬ layout.Addresses (entry :: rest) := by
  simp [Addresses, sized, lost]

end ImageLayout

structure Survey extends Sighting where
  context : ImageContext
  layout : ImageLayout

namespace Survey

/-- What a load finds before its first request. -/
structure Of (found : Survey) (volume : Window) (address : UInt64) : Prop where
  seen : (Image.sight volume address).result = .ok found.toSighting
  laid : (Image.computeLayout found.image found.address).result =
    .ok (found.context, found.layout)

variable (found : Survey)

def sections : List ImageSection := Image.sections found.image found.layout

def Addressed : Prop := found.layout.Addresses found.sections

def Displaced : Prop := found.context.linkedAddress ≠ found.address

instance : Decidable found.Addressed := inferInstanceAs (Decidable (ImageLayout.Addresses _ _))

instance : Decidable found.Displaced := inferInstanceAs (Decidable (_ ≠ _))

def sectionRequests : List PermissionRequest := found.layout.requests found.sections

def headerRequests (headerPageSize : UInt64) (changes : List PermissionChange) :
    List PermissionRequest :=
  PermissionRequest.each changes found.layout.trueBase headerPageSize

def unlocking (headerPageSize : UInt64) : List PermissionRequest :=
  found.headerRequests headerPageSize [.setNoExec, .clearReadOnly]

def locking (headerPageSize : UInt64) : PermissionRequest :=
  ⟨.setReadOnly, found.layout.trueBase, headerPageSize⟩

/-- All that a load asks for before it moves the image or is done with it. -/
def preparation (headerPageSize : UInt64) : List PermissionRequest :=
  found.sectionRequests ++
    if found.Addressed ∧ found.Displaced then found.unlocking headerPageSize else []

def placed : ImageContext := { found.context with imageAddress := found.address }

def loaded (relocated : Bool) : LoadedImage where
  context := found.placed
  layout := found.layout
  dataAddress := found.address
  size := found.image.size
  relocated

/-- What a load does when all of its preparation was granted. -/
def conclusion (permissions : PagePermissions σ) (relocator : Relocator σ)
    (headerPageSize : UInt64) : Step (Machine σ) Stop Bool :=
  if ¬ found.Addressed then Step.fail (.failed Image.truncated)
  else if ¬ found.Displaced then pure false
  else do
    Image.moveWith relocator found.placed found.image
    (Machine.outsideStep (permissions.requestAll [found.locking headerPageSize])).orStop
    pure true

end Survey

namespace Image

variable {permissions : PagePermissions σ} {relocator : Relocator σ}
  {headerPageSize address : UInt64} {size : Nat} {memory : Memory} {image : Window}
  {context : ImageContext} {layout : ImageLayout} {dataAddress : UInt64} {state reached : σ}

theorem protectSection_outcome (entry : ImageSection) (base : UInt64) (state : σ) :
    (protectSection permissions entry base).outcome state =
      (permissions.requestAll (entry.requests base)).outcome state := by
  have second (asked : PermissionRequest) (_ : Unit) (state : σ) :=
    (permissions.requestAll_singleton asked state).symm
  simp only [protectSection, ImageSection.requests, ImageSection.changes]
  split
  · exact second ⟨.setReadOnly, base, entry.size.toUInt64⟩ () state
  · split
    · exact Step.outcome_bind_congr rfl (second ⟨.clearReadOnly, base, entry.size.toUInt64⟩)
    · exact Step.outcome_bind_congr rfl (second ⟨.setReadOnly, base, entry.size.toUInt64⟩)

theorem protectFrom_outcome
    (laid : (computeLayout image dataAddress).result = .ok (context, layout)) {index count : Nat}
    (listed : index + count ≤ layout.sectionCount.toNat) (state : σ) :
    (protectFrom permissions image layout index count).outcome state =
      (permissions.requestAll (layout.requests (sectionsFrom image layout index count)) >>= fun _ =>
        if layout.Addresses (sectionsFrom image layout index count) then pure ()
        else Step.fail truncated).outcome state := by
  induction count generalizing index state with
  | zero => rfl
  | succ count ih =>
      obtain ⟨entry, read⟩ := sectionEntry_ok laid
        (show index < layout.sectionCount.toNat by omega)
      have front : (Step.ofReport (sectionEntry image layout index)).outcome state =
          (.ok entry, state) := by rw [Step.outcome_ofReport, read]
      simp only [sectionsFrom, read]
      refine (Step.outcome_bind_ok front).trans ?_
      by_cases empty : entry.size = 0
      · rw [ImageLayout.requests_cons_empty empty]
        simp only [ImageLayout.addresses_cons_empty empty, empty, bne_self_eq_false,
          Bool.false_eq_true, if_false]
        exact ih (by omega) state
      simp only [bne_iff_ne, ne_eq, empty, not_false_eq_true, if_true]
      cases addressed : layout.addressOf? entry.rva with
      | none =>
          rw [ImageLayout.requests_cons_lost empty addressed,
            if_neg (ImageLayout.not_addresses_cons empty addressed)]
          rfl
      | some base =>
          rw [ImageLayout.requests_cons empty addressed]
          simp only [ImageLayout.addresses_cons addressed]
          rw [Step.outcome_bind_congr (permissions.requestAll_append _ _ state)
            fun _ _ => rfl, Step.outcome_bind_assoc]
          exact Step.outcome_bind_congr (protectSection_outcome entry base state)
            fun _ reached => ih (by omega) reached

theorem protect_outcome
    (laid : (computeLayout image dataAddress).result = .ok (context, layout)) (state : σ) :
    (protect permissions image layout).outcome state =
      (permissions.requestAll (layout.requests (sections image layout)) >>= fun _ =>
        if layout.Addresses (sections image layout) then pure ()
        else Step.fail truncated).outcome state :=
  protectFrom_outcome laid (Nat.le_of_eq (Nat.zero_add _)) state

section Outside

variable {α β : Type} {step : Step σ BootFailure α}

theorem outside_ok {value : α} (done : step.outcome state = (.ok value, reached)) :
    (Machine.outsideStep step).orStop.outcome ⟨memory, state⟩ = (.ok value, ⟨memory, reached⟩) := by
  rw [Step.orStop, Step.outcome_recover, Machine.outsideStep, Step.outcome_focus, done]

theorem outside_error {failure : BootFailure}
    (failed : step.outcome state = (.error failure, reached)) :
    (Machine.outsideStep step).orStop.outcome ⟨memory, state⟩ =
      (.error (.failed failure), ⟨memory, reached⟩) := by
  rw [Step.orStop, Step.outcome_recover, Machine.outsideStep, Step.outcome_focus, failed]
  rfl

theorem outside_bind (next : α → Step σ BootFailure β) (machine : Machine σ) :
    (Machine.outsideStep (step >>= next)).orStop.outcome machine =
      ((Machine.outsideStep step).orStop >>= fun value =>
        (Machine.outsideStep (next value)).orStop).outcome machine := by
  obtain ⟨memory, state⟩ := machine
  rcases front : step.outcome state with ⟨failure | value, middle⟩
  · rw [Step.outcome_bind_error (outside_error front)]
    exact outside_error (Step.outcome_bind_error front)
  · rw [Step.outcome_bind_ok (outside_ok front)]
    rcases back : (next value).outcome middle with ⟨failure | last, reached⟩
    · rw [outside_error back]
      exact outside_error ((Step.outcome_bind_ok front).trans back)
    · rw [outside_ok back]
      exact outside_ok ((Step.outcome_bind_ok front).trans back)

theorem outside_congr {other : Step σ BootFailure α} {machine : Machine σ}
    (same : step.outcome machine.outside = other.outcome machine.outside) :
    (Machine.outsideStep step).orStop.outcome machine =
      (Machine.outsideStep other).orStop.outcome machine := by
  rw [Step.orStop, Step.orStop, Step.outcome_recover, Step.outcome_recover, Machine.outsideStep,
    Machine.outsideStep, Step.outcome_focus, Step.outcome_focus, same]

end Outside

variable {found : Survey} {machine : Machine σ}

def settle (permissions : PagePermissions σ) (relocator : Relocator σ) (headerPageSize : UInt64)
    (found : Survey) : Step (Machine σ) Stop Bool := do
  (Machine.outsideStep (protect permissions found.image found.layout)).orStop
  relocateIfNeeded permissions relocator headerPageSize found.context found.layout found.image
    found.address

theorem load_settles
    (surveyed : found.Of (memory.window address.toNat size) address) {outside : σ} :
    (load permissions relocator headerPageSize address size).outcome ⟨memory, outside⟩ =
      (settle permissions relocator headerPageSize found >>= fun relocated =>
        pure (found.loaded relocated)).outcome ⟨memory, outside⟩ := by
  obtain ⟨seen, laid⟩ := surveyed
  obtain ⟨location, _, located, cut, start, _⟩ := sight_ok seen
  obtain ⟨⟨address', image⟩, context, layout⟩ := found
  obtain ⟨_, rfl⟩ := Window.slice?_eq_some_iff.mp cut
  dsimp only at start laid
  subst start
  rw [load, Step.outcome_bind_get, Step.outcome_bind_orStop_ok _ located,
    Step.outcome_bind_orStop_ok _ (Report.require_ok_iff.mpr cut),
    Step.outcome_bind_orStop_ok _ laid, settle, Step.outcome_bind_assoc]
  refine Step.outcome_bind_congr rfl fun _ reached => ?_
  refine Step.outcome_bind_congr rfl fun relocated reached => ?_
  dsimp only
  split <;> rfl

theorem preparation_displaced (addressed : found.Addressed) (displaced : found.Displaced) :
    found.preparation headerPageSize = found.sectionRequests ++ found.unlocking headerPageSize := by
  rw [Survey.preparation, if_pos ⟨addressed, displaced⟩]

theorem preparation_still (still : ¬ (found.Addressed ∧ found.Displaced)) :
    found.preparation headerPageSize = found.sectionRequests := by
  rw [Survey.preparation, if_neg still, List.append_nil]

theorem relocateIfNeeded_displaced
    (laid : (computeLayout found.image found.address).result = .ok (found.context, found.layout))
    (displaced : found.Displaced) (machine : Machine σ) :
    (relocateIfNeeded permissions relocator headerPageSize found.context found.layout found.image
        found.address).outcome machine =
      ((Machine.outsideStep (permissions.requestAll (found.unlocking headerPageSize))).orStop
        >>= fun _ => do
          moveWith relocator found.placed found.image
          (Machine.outsideStep (permissions.requestAll [found.locking headerPageSize])).orStop
          pure true).outcome machine := by
  have away : found.context.imageAddress ≠ found.address := by
    rwa [computeLayout_imageAddress laid]
  have single (asked : PermissionRequest) (_ : Unit) (machine : Machine σ) :=
    (outside_congr (permissions.requestAll_singleton asked machine.outside)).symm
  have unlock : (Machine.outsideStep
      (permissions.requestAll (found.unlocking headerPageSize))).orStop.outcome machine = _ :=
    outside_bind (fun _ => permissions.requestAll
      [⟨.clearReadOnly, found.layout.trueBase, headerPageSize⟩]) machine
  rw [relocateIfNeeded, if_neg away, Step.outcome_bind_note,
    Step.outcome_bind_congr unlock fun _ _ => rfl, Step.outcome_bind_assoc]
  refine Step.outcome_bind_congr rfl fun _ _ => ?_
  refine Step.outcome_bind_congr (single ⟨.clearReadOnly, _, _⟩ () _) fun _ _ => ?_
  refine Step.outcome_bind_congr rfl fun _ _ => ?_
  exact Step.outcome_bind_congr (single (found.locking headerPageSize) () _) fun _ _ => rfl

theorem settle_protects
    (laid : (computeLayout found.image found.address).result = .ok (found.context, found.layout))
    (machine : Machine σ) :
    (settle permissions relocator headerPageSize found).outcome machine =
      ((Machine.outsideStep (permissions.requestAll found.sectionRequests)).orStop >>= fun _ =>
        if found.Addressed then
          relocateIfNeeded permissions relocator headerPageSize found.context found.layout
            found.image found.address
        else Step.fail (.failed truncated)).outcome machine := by
  have protects : (Machine.outsideStep (protect permissions found.image
      found.layout)).orStop.outcome machine = _ :=
    (outside_congr (protect_outcome laid machine.outside)).trans (outside_bind ..)
  rw [settle, Step.outcome_bind_congr protects fun _ _ => rfl, Step.outcome_bind_assoc]
  refine Step.outcome_bind_congr rfl fun _ reached => ?_
  by_cases addressed : found.Addressed
  · rw [if_pos addressed, if_pos (show found.layout.Addresses (sections ..) from addressed)]
    exact Step.outcome_bind_ok (outside_ok rfl)
  · rw [if_neg addressed, if_neg (show ¬ found.layout.Addresses (sections ..) from addressed)]
    exact Step.outcome_bind_error (outside_error rfl)

theorem settle_outcome
    (laid : (computeLayout found.image found.address).result = .ok (found.context, found.layout))
    (machine : Machine σ) :
    (settle permissions relocator headerPageSize found).outcome machine =
      ((Machine.outsideStep
          (permissions.requestAll (found.preparation headerPageSize))).orStop >>= fun _ =>
        found.conclusion permissions relocator headerPageSize).outcome machine := by
  rw [settle_protects laid]
  by_cases displaced : found.Addressed ∧ found.Displaced
  · obtain ⟨addressed, displaced⟩ := displaced
    have prepares := (outside_congr (permissions.requestAll_append found.sectionRequests
      (found.unlocking headerPageSize) machine.outside)).trans (outside_bind ..)
    rw [preparation_displaced addressed displaced,
      Step.outcome_bind_congr prepares fun _ _ => rfl, Step.outcome_bind_assoc]
    refine Step.outcome_bind_congr rfl fun _ reached => ?_
    rw [if_pos addressed, relocateIfNeeded_displaced laid displaced, Survey.conclusion,
      if_neg (not_not.mpr addressed), if_neg (not_not.mpr displaced)]
  · rw [preparation_still displaced]
    refine Step.outcome_bind_congr rfl fun _ reached => ?_
    rw [Survey.conclusion]
    by_cases addressed : found.Addressed
    · have still : ¬ found.Displaced := fun away => displaced ⟨addressed, away⟩
      have inPlace : found.context.imageAddress = found.address := by
        rw [computeLayout_imageAddress laid]
        exact not_not.mp still
      rw [if_pos addressed, if_neg (not_not.mpr addressed), if_pos still, relocateIfNeeded,
        if_pos inPlace]
      rfl
    · rw [if_neg addressed, if_pos addressed]

section Course

variable {before after : List PermissionRequest} {asked : PermissionRequest} {error : CallError}
  {outside middle last : σ} {later : Memory} {report : Report RelocationError Unit}

theorem survey_of_sight {volume : Window} {sighting : Sighting}
    (seen : (sight volume address).result = .ok sighting) :
    ∃ found : Survey, found.Of volume address := by
  obtain ⟨_, ⟨context, layout⟩, _, _, _, laid⟩ := sight_ok seen
  exact ⟨⟨sighting, context, layout⟩, seen, laid⟩

theorem survey_memory (surveyed : found.Of (memory.window address.toNat size) address) :
    { found.image with memory := memory } = found.image := by
  obtain ⟨_, _, _, cut, _⟩ := sight_ok surveyed.seen
  obtain ⟨_, whole⟩ := Window.slice?_eq_some_iff.mp cut
  rw [whole]
  rfl

theorem load_refused (surveyed : found.Of (memory.window address.toNat size) address)
    (split : found.preparation headerPageSize = before ++ asked :: after)
    (refuses : permissions.Refuses before asked error outside reached) :
    (load permissions relocator headerPageSize address size).outcome ⟨memory, outside⟩ =
      (.error (.failed (asked.failure error)), ⟨memory, reached⟩) := by
  rw [load_settles surveyed, Step.outcome_bind_congr (settle_outcome surveyed.laid _)
    fun _ _ => rfl, Step.outcome_bind_assoc, split,
    Step.outcome_bind_error (outside_error (PagePermissions.requestAll_refused refuses))]

theorem load_prepared (surveyed : found.Of (memory.window address.toNat size) address)
    (granted : permissions.Grants (found.preparation headerPageSize) outside middle) :
    (load permissions relocator headerPageSize address size).outcome ⟨memory, outside⟩ =
      (found.conclusion permissions relocator headerPageSize >>= fun relocated =>
        pure (found.loaded relocated)).outcome ⟨memory, middle⟩ := by
  rw [load_settles surveyed, Step.outcome_bind_congr (settle_outcome surveyed.laid _)
    fun _ _ => rfl, Step.outcome_bind_assoc,
    Step.outcome_bind_ok (outside_ok (PagePermissions.requestAll_granted granted))]

theorem load_unaddressed (surveyed : found.Of (memory.window address.toNat size) address)
    (granted : permissions.Grants (found.preparation headerPageSize) outside middle)
    (lost : ¬ found.Addressed) :
    (load permissions relocator headerPageSize address size).outcome ⟨memory, outside⟩ =
      (.error (.failed truncated), ⟨memory, middle⟩) := by
  rw [load_prepared surveyed granted, Survey.conclusion, if_pos lost]
  rfl

theorem load_inPlace (surveyed : found.Of (memory.window address.toNat size) address)
    (granted : permissions.Grants (found.preparation headerPageSize) outside middle)
    (addressed : found.Addressed) (still : ¬ found.Displaced) :
    (load permissions relocator headerPageSize address size).outcome ⟨memory, outside⟩ =
      (.ok (found.loaded false), ⟨memory, middle⟩) := by
  rw [load_prepared surveyed granted, Survey.conclusion, if_neg (not_not.mpr addressed),
    if_pos still]
  rfl

theorem load_displaced (surveyed : found.Of (memory.window address.toNat size) address)
    (granted : permissions.Grants (found.preparation headerPageSize) outside middle)
    (addressed : found.Addressed) (displaced : found.Displaced) :
    (load permissions relocator headerPageSize address size).outcome ⟨memory, outside⟩ =
      (moveWith relocator found.placed found.image >>= fun _ =>
        (Machine.outsideStep (permissions.requestAll [found.locking headerPageSize])).orStop
          >>= fun _ => pure (found.loaded true)).outcome ⟨memory, middle⟩ := by
  rw [load_prepared surveyed granted, Survey.conclusion, if_neg (not_not.mpr addressed),
    if_neg (not_not.mpr displaced), Step.outcome_bind_assoc]
  exact Step.outcome_bind_congr rfl fun _ _ => Step.outcome_bind_assoc ..

theorem moveWith_outcome (surveyed : found.Of (memory.window address.toNat size) address)
    (moved : relocator.relocate found.placed found.image middle = (report, later, reached)) :
    (moveWith relocator found.placed found.image).outcome ⟨memory, middle⟩ =
      (report.result.mapError .halfMoved, ⟨later, reached⟩) := by
  rw [Step.outcome, moveWith, survey_memory surveyed, moved, Report.result_recover]
  cases report.result <;> rfl

section Displaced

variable (surveyed : found.Of (memory.window address.toNat size) address)
  (granted : permissions.Grants (found.preparation headerPageSize) outside middle)
  (addressed : found.Addressed) (displaced : found.Displaced)
  (moved : relocator.relocate found.placed found.image middle = (report, later, reached))

include surveyed granted addressed displaced moved

theorem load_halfMoved {error : RelocationError} (failed : report.result = .error error) :
    (load permissions relocator headerPageSize address size).outcome ⟨memory, outside⟩ =
      (.error (.halfMoved error), ⟨later, reached⟩) := by
  have move := moveWith_outcome surveyed moved
  rw [failed] at move
  rw [load_displaced surveyed granted addressed displaced, Step.outcome_bind_error move]

theorem load_unlocked (fine : report.result = .ok ())
    (refuses : permissions.Refuses [] (found.locking headerPageSize) error reached last) :
    (load permissions relocator headerPageSize address size).outcome ⟨memory, outside⟩ =
      (.error (.failed ((found.locking headerPageSize).failure error)), ⟨later, last⟩) := by
  have move := moveWith_outcome surveyed moved
  rw [fine] at move
  rw [load_displaced surveyed granted addressed displaced, Step.outcome_bind_ok move]
  exact Step.outcome_bind_error
    (outside_error (PagePermissions.requestAll_refused refuses))

theorem load_moved (fine : report.result = .ok ())
    (locked : permissions.Grants [found.locking headerPageSize] reached last) :
    (load permissions relocator headerPageSize address size).outcome ⟨memory, outside⟩ =
      (.ok (found.loaded true), ⟨later, last⟩) := by
  have move := moveWith_outcome surveyed moved
  rw [fine] at move
  rw [load_displaced surveyed granted addressed displaced, Step.outcome_bind_ok move]
  exact Step.outcome_bind_ok (outside_ok (PagePermissions.requestAll_granted locked))

end Displaced

end Course

end Image

end PartitionBoot
