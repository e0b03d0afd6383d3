import PartitionBoot.Proofs.Image.Requests

/-!
The journal of a load: its requests for permission changes and its calls of the relocator, in
order. A load takes one of a few courses, and each of them fixes what it comes to, the machine that
it leaves and its journal.
-/

namespace PartitionBoot

variable {τ : Type}

structure MoveCall where
  context : ImageContext
  image : Window
  result : Except RelocationError Unit

inductive LoadEvent where
  | asked (request : PermissionRequest)
  | moved (call : MoveCall)

namespace LoadEvent

def request? : LoadEvent → Option PermissionRequest
  | asked request => some request
  | moved _ => none

def call? : LoadEvent → Option MoveCall
  | asked _ => none
  | moved call => some call

def requests (events : List LoadEvent) : List PermissionRequest := events.filterMap request?

def calls (events : List LoadEvent) : List MoveCall := events.filterMap call?

variable {events later : List LoadEvent} {all : List PermissionRequest} {call : MoveCall}
  {request : PermissionRequest}

@[simp] theorem requests_append : requests (events ++ later) = requests events ++ requests later :=
  List.filterMap_append

@[simp] theorem calls_append : calls (events ++ later) = calls events ++ calls later :=
  List.filterMap_append

@[simp] theorem requests_asked : requests (all.map asked) = all := by
  rw [requests, List.filterMap_map]
  exact List.filterMap_some

@[simp] theorem calls_asked : calls (all.map asked) = [] := by
  rw [calls, List.filterMap_eq_nil_iff]
  intro event member
  obtain ⟨request, _, rfl⟩ := List.mem_map.mp member
  rfl

@[simp] theorem requests_nil : requests [] = [] := rfl

@[simp] theorem calls_nil : calls [] = [] := rfl

@[simp] theorem requests_cons_asked : requests (asked request :: events) =
    request :: requests events := rfl

@[simp] theorem requests_cons_moved : requests (moved call :: events) = requests events := rfl

@[simp] theorem calls_cons_asked : calls (asked request :: events) = calls events := rfl

@[simp] theorem calls_cons_moved : calls (moved call :: events) = call :: calls events := rfl

end LoadEvent

structure Journal (τ : Type) where
  world : τ
  events : List LoadEvent

def PagePermissions.journaled (permissions : PagePermissions τ) : PagePermissions (Journal τ) where
  update change base length :=
    Step.focus Journal.world
      (fun journal world => ⟨world, journal.events ++ [.asked ⟨change, base, length⟩]⟩)
      (permissions.update change base length)

def Relocator.journaled (relocator : Relocator τ) : Relocator (Journal τ) where
  relocate context image journal :=
    let (report, memory, world) := relocator.relocate context image journal.world
    (report, memory, ⟨world, journal.events ++ [.moved ⟨context, image, report.result⟩]⟩)
  confined context image journal := relocator.confined context image journal.world

namespace PagePermissions

variable {permissions : PagePermissions τ} {asked : PermissionRequest}
  {before all : List PermissionRequest} {error : CallError} {journal reached : Journal τ}

theorem answer_journaled :
    (permissions.journaled.answer asked).outcome journal =
      (((permissions.answer asked).outcome journal.world).1,
        ⟨((permissions.answer asked).outcome journal.world).2,
          journal.events ++ [.asked asked]⟩) := rfl

theorem Grants.journaled {state last : τ} (granted : permissions.Grants all state last)
    (events : List LoadEvent) :
    permissions.journaled.Grants all ⟨state, events⟩ ⟨last, events ++ all.map .asked⟩ := by
  induction all generalizing state events with
  | nil =>
      cases granted
      simp [Grants]
  | cons asked rest ih =>
      obtain ⟨middle, made, later⟩ := granted
      refine ⟨⟨middle, events ++ [.asked asked]⟩, ?_, ?_⟩
      · rw [answer_journaled, made]
      · have more := ih later (events ++ [.asked asked])
        rw [List.append_assoc] at more
        exact more

theorem Refuses.journaled {state last : τ}
    (refuses : permissions.Refuses before asked error state last) (events : List LoadEvent) :
    permissions.journaled.Refuses before asked error ⟨state, events⟩
      ⟨last, events ++ (before ++ [asked]).map .asked⟩ := by
  obtain ⟨middle, granted, refused⟩ := refuses
  refine ⟨_, granted.journaled events, ?_⟩
  rw [answer_journaled, refused]
  simp

end PagePermissions

namespace Image

section Courses

variable (permissions : PagePermissions τ) (relocator : Relocator τ)
  (headerPageSize address : UInt64) (size : Nat) (memory : Memory) (outside : τ)

def loadEvents : List LoadEvent :=
  ((load permissions.journaled relocator.journaled headerPageSize address size).outcome
    ⟨memory, ⟨outside, []⟩⟩).2.outside.events

/-- All courses that a load can take: its journal, what it comes to and the machine that it
leaves. -/
inductive Course : List LoadEvent → Except Stop LoadedImage × Machine τ → Prop
  | unseen {failure : BootFailure}
      (lost : (sight (memory.window address.toNat size) address).result = .error failure) :
      Course [] (.error (.failed failure), ⟨memory, outside⟩)
  | refused {found : Survey} {before after : List PermissionRequest} {asked : PermissionRequest}
      {error : CallError} {reached : τ}
      (surveyed : found.Of (memory.window address.toNat size) address)
      (split : found.preparation headerPageSize = before ++ asked :: after)
      (refuses : permissions.Refuses before asked error outside reached) :
      Course ((before ++ [asked]).map .asked)
        (.error (.failed (asked.failure error)), ⟨memory, reached⟩)
  | unaddressed {found : Survey} {middle : τ}
      (surveyed : found.Of (memory.window address.toNat size) address)
      (granted : permissions.Grants (found.preparation headerPageSize) outside middle)
      (lost : ¬ found.Addressed) :
      Course ((found.preparation headerPageSize).map .asked)
        (.error (.failed truncated), ⟨memory, middle⟩)
  | inPlace {found : Survey} {middle : τ}
      (surveyed : found.Of (memory.window address.toNat size) address)
      (granted : permissions.Grants (found.preparation headerPageSize) outside middle)
      (addressed : found.Addressed) (still : ¬ found.Displaced) :
      Course ((found.preparation headerPageSize).map .asked)
        (.ok (found.loaded false), ⟨memory, middle⟩)
  | halfMoved {found : Survey} {middle reached : τ} {report : Report RelocationError Unit}
      {later : Memory} {error : RelocationError}
      (surveyed : found.Of (memory.window address.toNat size) address)
      (granted : permissions.Grants (found.preparation headerPageSize) outside middle)
      (addressed : found.Addressed) (displaced : found.Displaced)
      (moved : relocator.relocate found.placed found.image middle = (report, later, reached))
      (failed : report.result = .error error) :
      Course ((found.preparation headerPageSize).map .asked ++
          [.moved ⟨found.placed, found.image, .error error⟩])
        (.error (.halfMoved error), ⟨later, reached⟩)
  | unlocked {found : Survey} {middle reached last : τ} {report : Report RelocationError Unit}
      {later : Memory} {error : CallError}
      (surveyed : found.Of (memory.window address.toNat size) address)
      (granted : permissions.Grants (found.preparation headerPageSize) outside middle)
      (addressed : found.Addressed) (displaced : found.Displaced)
      (moved : relocator.relocate found.placed found.image middle = (report, later, reached))
      (fine : report.result = .ok ())
      (refuses : permissions.Refuses [] (found.locking headerPageSize) error reached last) :
      Course ((found.preparation headerPageSize).map .asked ++
          [.moved ⟨found.placed, found.image, .ok ()⟩, .asked (found.locking headerPageSize)])
        (.error (.failed ((found.locking headerPageSize).failure error)), ⟨later, last⟩)
  | moved {found : Survey} {middle reached last : τ} {report : Report RelocationError Unit}
      {later : Memory}
      (surveyed : found.Of (memory.window address.toNat size) address)
      (granted : permissions.Grants (found.preparation headerPageSize) outside middle)
      (addressed : found.Addressed) (displaced : found.Displaced)
      (moved : relocator.relocate found.placed found.image middle = (report, later, reached))
      (fine : report.result = .ok ())
      (locked : permissions.Grants [found.locking headerPageSize] reached last) :
      Course ((found.preparation headerPageSize).map .asked ++
          [.moved ⟨found.placed, found.image, .ok ()⟩, .asked (found.locking headerPageSize)])
        (.ok (found.loaded true), ⟨later, last⟩)

theorem exists_course_moved {found : Survey} {middle : τ}
    (surveyed : found.Of (memory.window address.toNat size) address)
    (granted : permissions.Grants (found.preparation headerPageSize) outside middle)
    (addressed : found.Addressed) (displaced : found.Displaced) :
    ∃ call rest run, Course permissions relocator headerPageSize address size memory outside
      ((found.preparation headerPageSize).map .asked ++ .moved call :: rest) run := by
  rcases moved : relocator.relocate found.placed found.image middle with ⟨report, later, reached⟩
  cases told : report.result with
  | error error => exact ⟨_, _, _, .halfMoved surveyed granted addressed displaced moved told⟩
  | ok =>
      rcases permissions.answer_cases (found.locking headerPageSize) reached with
        ⟨last, locked⟩ | ⟨error, last, refuses⟩
      · exact ⟨_, _, _, .moved surveyed granted addressed displaced moved told locked⟩
      · exact ⟨_, _, _, .unlocked surveyed granted addressed displaced moved told refuses⟩

/-- A load takes one of the courses, whatever it is granted. -/
theorem exists_course : ∃ events run,
    Course permissions relocator headerPageSize address size memory outside events run := by
  cases seen : (sight (memory.window address.toNat size) address).result with
  | error failure => exact ⟨_, _, .unseen seen⟩
  | ok sighting =>
      obtain ⟨found, surveyed⟩ := survey_of_sight seen
      obtain ⟨middle, granted⟩ | ⟨before, asked, after, error, reached, split, refuses⟩ :=
        permissions.grants_or_refuses (found.preparation headerPageSize) outside
      case inr => exact ⟨_, _, .refused surveyed split refuses⟩
      by_cases addressed : found.Addressed
      case neg => exact ⟨_, _, .unaddressed surveyed granted addressed⟩
      by_cases displaced : found.Displaced
      case neg => exact ⟨_, _, .inPlace surveyed granted addressed displaced⟩
      obtain ⟨_, _, run, course⟩ := exists_course_moved _ relocator _ _ _ _ _ surveyed
        granted addressed displaced
      exact ⟨_, run, course⟩

end Courses

variable {permissions : PagePermissions τ} {relocator : Relocator τ}
  {headerPageSize address : UInt64} {size : Nat} {memory : Memory} {outside : τ}
  {events : List LoadEvent} {run : Except Stop LoadedImage × Machine τ}

theorem Course.outcome
    (course : Course permissions relocator headerPageSize address size memory outside events run) :
    (load permissions relocator headerPageSize address size).outcome ⟨memory, outside⟩ = run := by
  cases course with
  | unseen lost => exact load_stops lost
  | refused surveyed split refuses => exact load_refused surveyed split refuses
  | unaddressed surveyed granted lost => exact load_unaddressed surveyed granted lost
  | inPlace surveyed granted addressed still => exact load_inPlace surveyed granted addressed still
  | halfMoved surveyed granted addressed displaced moved failed =>
      exact load_halfMoved surveyed granted addressed displaced moved failed
  | unlocked surveyed granted addressed displaced moved fine refuses =>
      exact load_unlocked surveyed granted addressed displaced moved fine refuses
  | moved surveyed granted addressed displaced moved fine locked =>
      exact load_moved surveyed granted addressed displaced moved fine locked

theorem relocate_journaled {context : ImageContext} {image : Window} {later : Memory}
    {report : Report RelocationError Unit} {reached : τ} (before : List LoadEvent)
    (moved : relocator.relocate context image outside = (report, later, reached)) :
    relocator.journaled.relocate context image ⟨outside, before⟩ =
      (report, later, ⟨reached, before ++ [.moved ⟨context, image, report.result⟩]⟩) := by
  simp only [Relocator.journaled, moved]

theorem Course.journaled
    (course : Course permissions relocator headerPageSize address size memory outside events run) :
    (load permissions.journaled relocator.journaled headerPageSize address size).outcome
      ⟨memory, ⟨outside, []⟩⟩ = (run.1, ⟨run.2.memory, ⟨run.2.outside, events⟩⟩) := by
  cases course with
  | unseen lost => exact load_stops lost
  | refused surveyed split refuses => exact load_refused surveyed split (refuses.journaled [])
  | unaddressed surveyed granted lost =>
      exact load_unaddressed surveyed (granted.journaled []) lost
  | inPlace surveyed granted addressed still =>
      exact load_inPlace surveyed (granted.journaled []) addressed still
  | halfMoved surveyed granted addressed displaced moved failed =>
      refine (load_halfMoved surveyed (granted.journaled []) addressed displaced
        (relocate_journaled _ moved) failed).trans ?_
      rw [failed]
      rfl
  | unlocked surveyed granted addressed displaced moved fine refuses =>
      refine (load_unlocked surveyed (granted.journaled []) addressed displaced
        (relocate_journaled _ moved) fine (refuses.journaled _)).trans ?_
      rw [fine, List.append_assoc]
      rfl
  | moved surveyed granted addressed displaced moved fine locked =>
      refine (load_moved surveyed (granted.journaled []) addressed displaced
        (relocate_journaled _ moved) fine (locked.journaled _)).trans ?_
      rw [fine, List.append_assoc]
      rfl

theorem Course.loadEvents_eq
    (course : Course permissions relocator headerPageSize address size memory outside events run) :
    loadEvents permissions relocator headerPageSize address size memory outside = events := by
  rw [loadEvents, course.journaled]

theorem load_course (permissions : PagePermissions τ) (relocator : Relocator τ)
    (headerPageSize address : UInt64) (size : Nat) (memory : Memory) (outside : τ) :
    Course permissions relocator headerPageSize address size memory outside
      (loadEvents permissions relocator headerPageSize address size memory outside)
      ((load permissions relocator headerPageSize address size).outcome ⟨memory, outside⟩) := by
  obtain ⟨events, run, course⟩ :=
    exists_course permissions relocator headerPageSize address size memory outside
  rw [course.outcome, course.loadEvents_eq]
  exact course

/-- A load does the same whether a journal is kept or not. -/
theorem load_journaled (permissions : PagePermissions τ) (relocator : Relocator τ)
    (headerPageSize address : UInt64) (size : Nat) (memory : Memory) (outside : τ) :
    let run := (load permissions relocator headerPageSize address size).outcome ⟨memory, outside⟩
    (load permissions.journaled relocator.journaled headerPageSize address size).outcome
        ⟨memory, ⟨outside, []⟩⟩ =
      (run.1, ⟨run.2.memory, run.2.outside,
        loadEvents permissions relocator headerPageSize address size memory outside⟩) :=
  (load_course permissions relocator headerPageSize address size memory outside).journaled

end Image

end PartitionBoot
