import PartitionBoot.Proofs.Image.SingleMove

/-!
A load that is refused a request. The requests that a load makes when it is refused nothing follow
from its image and the relocator, so a refusal cuts this list short and changes nothing in front of
the cut.
-/

namespace PartitionBoot

variable {τ ρ : Type}

def PagePermissions.granting : PagePermissions Unit where
  update _ _ _ := pure ()

def PagePermissions.counting : PagePermissions Nat where
  update _ _ _
    | 0 => (Report.fail .denied, 0)
    | granted + 1 => (pure (), granted)

theorem PagePermissions.granting_grants (all : List PermissionRequest) :
    PagePermissions.granting.Grants all () () := by
  induction all with
  | nil => rfl
  | cons asked rest ih => exact ⟨(), rfl, ih⟩

theorem Relocator.relocate_inside {relocator : Relocator ρ} {context : ImageContext}
    {image : Window} {report : Report RelocationError Unit} {later : Memory} {world reached : ρ}
    (moved : relocator.relocate context image world = (report, later, reached)) (other : τ) :
    relocator.inside.relocate context image (other, world) = (report, later, (other, reached)) := by
  simp only [inside, moved]

namespace Survey

variable {found : Survey} {headerPageSize : UInt64} {before after : List PermissionRequest}
  {asked : PermissionRequest} {result : Except RelocationError Unit}

/-- The events of a load that is refused nothing, as far as the relocator lets it come. -/
def script (found : Survey) (headerPageSize : UInt64) (result : Except RelocationError Unit) :
    List LoadEvent :=
  (found.preparation headerPageSize).map .asked ++
    if found.Addressed ∧ found.Displaced then
      .moved ⟨found.placed, found.image, result⟩ ::
        match result with
        | .ok _ => [.asked (found.locking headerPageSize)]
        | .error _ => []
    else []

theorem script_still (still : ¬ (found.Addressed ∧ found.Displaced)) :
    found.script headerPageSize result = (found.preparation headerPageSize).map .asked := by
  unfold script
  rw [if_neg still, List.append_nil]

theorem script_failed (moves : found.Addressed ∧ found.Displaced) (error : RelocationError) :
    found.script headerPageSize (.error error) = (found.preparation headerPageSize).map .asked ++
      [.moved ⟨found.placed, found.image, .error error⟩] := by
  simp only [script, if_pos moves]

theorem script_moved (moves : found.Addressed ∧ found.Displaced) :
    found.script headerPageSize (.ok ()) = (found.preparation headerPageSize).map .asked ++
      [.moved ⟨found.placed, found.image, .ok ()⟩, .asked (found.locking headerPageSize)] := by
  simp only [script, if_pos moves]

theorem script_split
    (split : LoadEvent.requests (found.script headerPageSize result) = before ++ asked :: after) :
    (∃ rest, found.preparation headerPageSize = before ++ asked :: rest) ∨
      (found.Addressed ∧ found.Displaced) ∧ result = .ok () ∧
        before = found.preparation headerPageSize ∧ asked = found.locking headerPageSize ∧
        after = [] := by
  by_cases moves : found.Addressed ∧ found.Displaced
  case neg =>
    rw [script_still moves, LoadEvent.requests_asked] at split
    exact .inl ⟨after, split⟩
  cases result with
  | error error =>
      rw [script_failed moves] at split
      exact .inl ⟨after, by simpa using split⟩
  | ok =>
      have whole : found.preparation headerPageSize ++ [found.locking headerPageSize] =
          before ++ asked :: after := by
        simpa [script_moved moves] using split
      rcases List.eq_nil_or_concat after with rfl | ⟨rest, last, rfl⟩
      · obtain ⟨same, single⟩ := List.append_inj' whole rfl
        cases single
        exact .inr ⟨moves, rfl, same.symm, rfl, rfl⟩
      · rw [List.concat_eq_append, ← List.cons_append, ← List.append_assoc] at whole
        exact .inl ⟨rest, (List.append_inj' whole rfl).1⟩

end Survey

namespace Image

variable {permissions : PagePermissions τ} {relocator : Relocator ρ}
  {headerPageSize address : UInt64} {size : Nat} {memory : Memory} {initial reached : τ}
  {world : ρ}

def unrefusedEvents (relocator : Relocator ρ) (headerPageSize address : UInt64) (size : Nat)
    (memory : Memory) (world : ρ) : List LoadEvent :=
  loadEvents PagePermissions.granting.inside relocator.inside headerPageSize address size memory
    ((), world)

theorem exists_course_script {found : Survey} {report : Report RelocationError Unit}
    {later : Memory} {last : ρ} (surveyed : found.Of (memory.window address.toNat size) address)
    (moved : relocator.relocate found.placed found.image world = (report, later, last))
    (granted : permissions.Grants
      (LoadEvent.requests (found.script headerPageSize report.result)) initial reached) :
    ∃ run, Course permissions.inside relocator.inside headerPageSize address size memory
      (initial, world) (found.script headerPageSize report.result) run := by
  by_cases moves : found.Addressed ∧ found.Displaced
  case neg =>
    rw [Survey.script_still moves] at granted ⊢
    rw [LoadEvent.requests_asked] at granted
    by_cases addressed : found.Addressed
    · exact ⟨_, .inPlace surveyed (granted.inside world) addressed fun away =>
        moves ⟨addressed, away⟩⟩
    · exact ⟨_, .unaddressed surveyed (granted.inside world) addressed⟩
  cases result : report.result with
  | error error =>
      rw [result, Survey.script_failed moves] at granted
      rw [Survey.script_failed moves]
      have front : permissions.Grants (found.preparation headerPageSize) initial reached := by
        simpa using granted
      exact ⟨_, .halfMoved surveyed (front.inside world) moves.1 moves.2
        (Relocator.relocate_inside moved reached) result⟩
  | ok =>
      rw [result, Survey.script_moved moves] at granted
      rw [Survey.script_moved moves]
      have all : permissions.Grants
          (found.preparation headerPageSize ++ [found.locking headerPageSize]) initial reached := by
        simpa using granted
      obtain ⟨middle, front, back⟩ := PagePermissions.grants_append.mp all
      exact ⟨_, .moved surveyed (front.inside world) moves.1 moves.2
        (Relocator.relocate_inside moved middle) result (back.inside last)⟩

theorem unrefusedEvents_eq_script {found : Survey} {report : Report RelocationError Unit}
    {later : Memory} {last : ρ} (surveyed : found.Of (memory.window address.toNat size) address)
    (moved : relocator.relocate found.placed found.image world = (report, later, last)) :
    unrefusedEvents relocator headerPageSize address size memory world =
      found.script headerPageSize report.result := by
  obtain ⟨_, course⟩ := exists_course_script surveyed moved (PagePermissions.granting_grants _)
  exact course.loadEvents_eq

/-- The requests of a load are those that it makes when it is refused nothing, as long as they are
granted. The first one that is refused is the last one that it makes, and its error is what the
load comes to. The relocator was called by then only if this is the request that makes the header
page read-only behind the move, and otherwise no memory has changed. -/
theorem load_stops_at_refusal (permissions : PagePermissions τ) (relocator : Relocator ρ)
    (headerPageSize address : UInt64) (size : Nat) (memory : Memory) (initial : τ) (world : ρ) :
    let unrefused := unrefusedEvents relocator headerPageSize address size memory world
    let events := loadEvents permissions.inside relocator.inside headerPageSize address size memory
      (initial, world)
    let run := (load permissions.inside relocator.inside headerPageSize address size).outcome
      ⟨memory, (initial, world)⟩
    (∀ reached, permissions.Grants (LoadEvent.requests unrefused) initial reached →
        events = unrefused) ∧
      ∀ before asked after error refused,
        LoadEvent.requests unrefused = before ++ asked :: after →
        permissions.Refuses before asked error initial refused →
          LoadEvent.requests events = before ++ [asked] ∧ events <+: unrefused ∧
          run.1 = .error (.failed (.permissionRefused asked.change asked.base error)) ∧
          (LoadEvent.calls events ≠ [] ∨ run.2.memory ≠ memory →
            after = [] ∧ asked.change = .setReadOnly ∧
              ∃ earlier call, events = earlier ++ [.moved call, .asked asked]) := by
  intro unrefused events run
  cases seen : (sight (memory.window address.toNat size) address).result with
  | error failure =>
      have silent : unrefused = [] := (Course.unseen seen).loadEvents_eq
      rw [silent]
      refine ⟨fun _ _ => (Course.unseen seen).loadEvents_eq, ?_⟩
      intro before asked after error refused split
      exact absurd split.symm (List.append_ne_nil_of_right_ne_nil _ (List.cons_ne_nil _ _))
  | ok sighting =>
      obtain ⟨found, surveyed⟩ := survey_of_sight seen
      rcases moved : relocator.relocate found.placed found.image world with ⟨report, later, last⟩
      have whole : unrefused = found.script headerPageSize report.result :=
        unrefusedEvents_eq_script surveyed moved
      rw [whole]
      constructor
      · intro reached granted
        obtain ⟨_, course⟩ := exists_course_script surveyed moved granted
        exact course.loadEvents_eq
      intro before asked after error refused split refuses
      rcases Survey.script_split split with ⟨rest, same⟩ | ⟨moves, fine, rfl, rfl, rfl⟩
      · have course : Course permissions.inside relocator.inside headerPageSize address size memory
            (initial, world) _ _ := .refused surveyed same (refuses.inside world)
        have told : events = (before ++ [asked]).map .asked := course.loadEvents_eq
        have came : run = _ := course.outcome
        obtain ⟨tail, parts⟩ : ∃ tail, found.script headerPageSize report.result =
            (found.preparation headerPageSize).map .asked ++ tail := ⟨_, rfl⟩
        rw [told, came, parts, same]
        exact ⟨by simp, ⟨rest.map .asked ++ tail, by simp⟩, rfl, by simp⟩
      · obtain ⟨middle, granted, answer⟩ := refuses
        have second : permissions.Refuses [] (found.locking headerPageSize) error middle refused :=
          ⟨middle, rfl, answer⟩
        have course := Course.unlocked surveyed (granted.inside world) moves.1 moves.2
          (Relocator.relocate_inside moved middle) fine (second.inside last)
        have told : events = _ := course.loadEvents_eq
        have came : run = _ := course.outcome
        rw [told, came, fine, Survey.script_moved moves]
        exact ⟨by simp, List.prefix_refl _, rfl, fun _ => ⟨rfl, rfl, _, _, rfl⟩⟩

def dataSectionRequests : List PermissionRequest :=
  PermissionRequest.each [.setNoExec, .clearReadOnly] 0x11000 20 ++
    PermissionRequest.each [.setNoExec, .clearReadOnly, .setReadOnly] 0x10000 0x1000

def countedLoad (granted : Nat) : Except Stop LoadedImage × Machine (Nat × Unit) :=
  (load PagePermissions.counting.inside Relocator.fixups.inside 0x1000 0x10f5c
    (oneSectionVolume 0xc0000040).bytes.length).outcome ⟨dataSectionMemory, (granted, ())⟩

def countedEvents (granted : Nat) : List LoadEvent :=
  loadEvents PagePermissions.counting.inside Relocator.fixups.inside 0x1000 0x10f5c
    (oneSectionVolume 0xc0000040).bytes.length dataSectionMemory (granted, ())

/-- Denied the request in front of the move or the one behind it, the load of an image with one
section of data ends with that request, and in front of the move it has changed nothing. -/
theorem load_stops_at_denied_requests :
    (LoadEvent.requests (countedEvents 3) = dataSectionRequests.take 4 ∧
      (countedLoad 3).1 =
        .error (.failed (.permissionRefused .clearReadOnly 0x10000 .denied)) ∧
      LoadEvent.calls (countedEvents 3) = [] ∧ (countedLoad 3).2.memory = dataSectionMemory) ∧
    LoadEvent.requests (countedEvents 4) = dataSectionRequests ∧
      (countedLoad 4).1 =
        .error (.failed (.permissionRefused .setReadOnly 0x10000 .denied)) := by
  have all : LoadEvent.requests (unrefusedEvents Relocator.fixups 0x1000 0x10f5c
      (oneSectionVolume 0xc0000040).bytes.length dataSectionMemory ()) = dataSectionRequests := by
    decide +kernel
  have stops (granted : Nat) := (load_stops_at_refusal PagePermissions.counting Relocator.fixups
    0x1000 0x10f5c (oneSectionVolume 0xc0000040).bytes.length dataSectionMemory granted ()).2
  constructor
  · obtain ⟨asked, -, failed, moves⟩ := stops 3 (dataSectionRequests.take 3)
      ⟨.clearReadOnly, 0x10000, 0x1000⟩ [⟨.setReadOnly, 0x10000, 0x1000⟩] .denied 0 all
      ⟨0, ⟨2, rfl, 1, rfl, 0, rfl, rfl⟩, rfl⟩
    have front : ¬ (LoadEvent.calls (countedEvents 3) ≠ [] ∨
        (countedLoad 3).2.memory ≠ dataSectionMemory) :=
      fun changed => by cases (moves changed).1
    rw [not_or, not_not, not_not] at front
    exact ⟨asked, failed, front⟩
  · obtain ⟨asked, -, failed, -⟩ := stops 4 (dataSectionRequests.take 4)
      ⟨.setReadOnly, 0x10000, 0x1000⟩ [] .denied 0 all
      ⟨0, ⟨3, rfl, 2, rfl, 1, rfl, 0, rfl, rfl⟩, rfl⟩
    exact ⟨asked, failed⟩

end Image

end PartitionBoot
