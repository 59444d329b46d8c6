/-
This file shows what is in the requests that are built from one another, whatever else is done with
them and with the daemons.
-/

import EmacsSession.Proofs.Session.Move
import EmacsSession.Session.Request

namespace EmacsSession

/-- The fault is about a name that is not accepted. -/
def Fault.isOfName : Fault → Bool
  | .nameKind _ _ | .name _ _ _ => true
  | _ => false

namespace Request

/-- A call of a builder. -/
inductive Call where
  | load (feature file : Value)
  | append (forms : List Value)
  | withInput (input : Value)

variable {Daemon : Type}

/-- What a call makes of a request. -/
def Call.build (call : Call) (request : Request Daemon) : Except Fault (Request Daemon) :=
  match call with
  | .load feature file => request.load feature file
  | .append forms => .ok (request.append forms)
  | .withInput input => .ok (request.withInput input)

/-- The input that a call gives, if it gives one. -/
def Call.input? : Call → Option Value
  | .withInput input => some input
  | _ => none

/-- The forms that a call gives. -/
inductive Call.Gives : Call → List Value → Prop where
  | feature {feature file form : Value} (made : Form.require feature file = .ok form) :
      Gives (.load feature file) [form]
  | forms (forms : List Value) : Gives (.append forms) forms
  | input (input : Value) : Gives (.withInput input) []

/-- The forms that calls give, in the order of the calls. -/
inductive GivesInOrder : List Call → List Value → Prop where
  | none : GivesInOrder [] []
  | next {calls : List Call} {call : Call} {forms others : List Value}
      (earlier : GivesInOrder calls forms) (last : call.Gives others) :
      GivesInOrder (calls ++ [call]) (forms ++ others)

/-- The input of the last call that gives one; without such a call there is none. -/
def lastInput (calls : List Call) : Value :=
  (calls.filterMap Call.input?).getLast?.getD .absent

end Request

/-- Daemons with their sessions, and the requests that were built, first one first. -/
structure Workshop (Daemon : Type) where
  sessions : Daemon → Session
  requests : List (Request Daemon) := []

namespace Workshop

open Request

/-- What a call is made on: a daemon, or the request of a number. -/
inductive Base (Daemon : Type) where
  | daemon (daemon : Daemon)
  | request (number : Nat)

/-- What is done in a workshop. -/
inductive Act (Daemon : Type) where
  | call (base : Base Daemon) (call : Call)
  | run (number : Nat)
  /-- Anything else that happens in the session of a daemon. -/
  | move (daemon : Daemon) (move : Move)

variable {Daemon : Type}

/-- The request that a call begins with. -/
def base? (workshop : Workshop Daemon) : Base Daemon → Option (Request Daemon)
  | .daemon daemon => some { daemon := daemon }
  | .request number => workshop.requests[number]?

/-- What a call is answered with, if there is what it is made on. -/
def answer? (workshop : Workshop Daemon) (base : Base Daemon) (call : Call) :
    Option (Except Fault (Request Daemon)) :=
  (workshop.base? base).map call.build

/-- The request that a call builds. -/
def build? (workshop : Workshop Daemon) (base : Base Daemon) (call : Call) :
    Option (Request Daemon) :=
  (workshop.answer? base call).bind Except.toOption

/-- The call of an act by which a request is built, and what that is made on. -/
def origin? (workshop : Workshop Daemon) : Act Daemon → Option (Base Daemon × Call)
  | .call base call => (workshop.build? base call).map fun _ => (base, call)
  | _ => none

section Acts

variable [DecidableEq Daemon]

/-- A move in the session of a daemon. -/
def move (workshop : Workshop Daemon) (daemon : Daemon) (move : Move) : Workshop Daemon :=
  { workshop with
    sessions :=
      Function.update workshop.sessions daemon ((workshop.sessions daemon).move move) }

/-- What an act makes of a workshop. -/
def act (workshop : Workshop Daemon) : Act Daemon → Workshop Daemon
  | .call base call =>
      { workshop with requests := workshop.requests ++ (workshop.build? base call).toList }
  | .run number =>
      match workshop.requests[number]? with
      | some request => workshop.move request.daemon (.event request.run)
      | none => workshop
  | .move daemon move => workshop.move daemon move

/-- The acts are done in order. -/
def follow (workshop : Workshop Daemon) (acts : List (Act Daemon)) : Workshop Daemon :=
  acts.foldl act workshop

/-- The calls by which requests are built, in the order of the requests. -/
def origins (workshop : Workshop Daemon) : List (Act Daemon) → List (Base Daemon × Call)
  | [] => []
  | act :: acts => (workshop.origin? act).toList ++ (workshop.act act).origins acts

end Acts

/-- The calls that lead from a daemon to the request of a number, first call first. -/
inductive IsPath (origins : List (Base Daemon × Call)) : Nat → Daemon → List Call → Prop where
  | daemon {number : Nat} {daemon : Daemon} {call : Call}
      (made : origins[number]? = some (.daemon daemon, call)) :
      IsPath origins number daemon [call]
  | request {number earlier : Nat} {daemon : Daemon} {calls : List Call} {call : Call}
      (made : origins[number]? = some (.request earlier, call))
      (path : IsPath origins earlier daemon calls) :
      IsPath origins number daemon (calls ++ [call])

/-- The request holds what the calls on its path gave. -/
structure HoldsPath (request : Request Daemon) (daemon : Daemon) (calls : List Call)
    (forms : List Value) : Prop where
  gives : GivesInOrder calls forms
  forms_eq : request.forms = forms
  form_eq : request.form = Form.progn forms
  input_eq : request.input = lastInput calls
  daemon_eq : request.daemon = daemon

/-- Whatever was done in a workshop, its requests are what the calls on their paths made them. -/
structure IsFaithful [DecidableEq Daemon] (start : Workshop Daemon) (acts : List (Act Daemon)) :
    Prop where
  /-- One path leads to each request. -/
  path : ∀ {number : Nat} {request : Request Daemon},
    (start.follow acts).requests[number]? = some request →
      ∃! path : Daemon × List Call, IsPath (start.origins acts) number path.1 path.2
  /-- The request holds what the calls on the path gave, and a run of it is the evaluation of just
  that by the daemon of the path. -/
  holds : ∀ {number : Nat} {daemon : Daemon} {calls : List Call},
    IsPath (start.origins acts) number daemon calls →
      ∃ request forms, (start.follow acts).requests[number]? = some request ∧
        HoldsPath request daemon calls forms ∧
        (start.follow acts).act (.run number) =
          (start.follow acts).act
            (.move daemon (.event (.evaluate (Form.progn forms) (lastInput calls))))
  /-- A request that was there at any time before is unchanged. -/
  lasts : ∀ {before after : List (Act Daemon)}, acts = before ++ after →
    ∀ {number : Nat} {request : Request Daemon},
      (start.follow before).requests[number]? = some request →
        (start.follow acts).requests[number]? = some request
  /-- A call is answered with a request of its own, which is added to the others. -/
  builds : ∀ {base : Base Daemon} {call : Call} {request : Request Daemon},
    (start.follow acts).answer? base call = some (.ok request) →
      ((start.follow acts).act (.call base call)).requests =
        (start.follow acts).requests ++ [request]
  /-- A call that fails does so because of a name, and changes nothing. -/
  fails : ∀ {base : Base Daemon} {call : Call} {fault : Fault},
    (start.follow acts).answer? base call = some (.error fault) →
      fault.isOfName ∧ (start.follow acts).act (.call base call) = start.follow acts

/-- The requests are those that the calls made, each on a daemon or on an earlier one. -/
structure IsRecorded (workshop : Workshop Daemon) (origins : List (Base Daemon × Call)) :
    Prop where
  count : workshop.requests.length = origins.length
  made : ∀ {number : Nat} {base : Base Daemon} {call : Call},
    origins[number]? = some (base, call) →
      ∃ source request, workshop.base? base = some source ∧ call.build source = .ok request ∧
        workshop.requests[number]? = some request
  earlier : ∀ {number earlier : Nat} {call : Call},
    origins[number]? = some (.request earlier, call) → earlier < number

section Calls

variable {call : Call} {source request : Request Daemon} {fault : Fault}

theorem isOfName_of_symbolOrName {value : Value}
    (fails : Form.symbolOrName value = .error fault) : fault.isOfName := by
  cases value
  case symbol symbol => cases fails
  case text name =>
      change ((Symbol.ofName name).mapError (Fault.name .symbol name)).map Value.symbol = _ at fails
      cases named : Symbol.ofName name <;> rw [named] at fails <;> cases fails
      rfl
  all_goals
    cases fails
    rfl

theorem isOfName_of_require {feature file : Value}
    (fails : Form.require feature file = .error fault) : fault.isOfName := by
  rw [Form.require] at fails
  cases named : Form.symbolOrName feature with
  | error other =>
      rw [named] at fails
      cases fails
      exact isOfName_of_symbolOrName named
  | ok name =>
      rw [named] at fails
      cases file <;> cases fails

theorem isOfName_of_build (fails : call.build source = .error fault) : fault.isOfName := by
  cases call with
  | load feature file =>
      rw [Call.build, load] at fails
      cases made : Form.require feature file with
      | error other =>
          rw [made] at fails
          cases fails
          exact isOfName_of_require made
      | ok form =>
          rw [made] at fails
          cases fails
  | append forms => cases fails
  | withInput input => cases fails

/-- A call puts the forms that it gives behind the others, and keeps the input unless it gives
one. -/
theorem gives_of_build (builds : call.build source = .ok request) :
    ∃ forms, call.Gives forms ∧
      request = ⟨source.daemon, source.forms ++ forms, call.input?.getD source.input⟩ := by
  cases call with
  | load feature file =>
      rw [Call.build, load] at builds
      cases made : Form.require feature file with
      | error fault =>
          rw [made] at builds
          cases builds
      | ok form =>
          rw [made] at builds
          cases builds
          exact ⟨[form], .feature made, rfl⟩
  | append forms =>
      cases builds
      exact ⟨forms, .forms forms, rfl⟩
  | withInput input =>
      cases builds
      exact ⟨[], .input input, by rw [List.append_nil]; rfl⟩

theorem lastInput_concat (calls : List Call) (call : Call) :
    lastInput (calls ++ [call]) = call.input?.getD (lastInput calls) := by
  cases call <;> simp [lastInput, List.filterMap_append, Call.input?]

theorem holdsPath_singleton {daemon : Daemon}
    (builds : call.build { daemon := daemon } = .ok request) :
    ∃ forms, HoldsPath request daemon [call] forms := by
  obtain ⟨forms, gives, rfl⟩ := gives_of_build builds
  exact ⟨forms, .next .none gives, rfl, rfl, (lastInput_concat [] call).symm, rfl⟩

theorem HoldsPath.concat {daemon : Daemon} {calls : List Call} {forms : List Value}
    (holds : HoldsPath source daemon calls forms) (builds : call.build source = .ok request) :
    ∃ others, HoldsPath request daemon (calls ++ [call]) (forms ++ others) := by
  obtain ⟨others, gives, rfl⟩ := gives_of_build builds
  obtain ⟨earlier, rfl, -, input, same⟩ := holds
  refine ⟨others, .next earlier gives, rfl, rfl, ?_, same⟩
  rw [lastInput_concat, input]

end Calls

section Paths

variable {workshop : Workshop Daemon} {origins : List (Base Daemon × Call)}

theorem IsRecorded.exists_path (recorded : workshop.IsRecorded origins) {number : Nat}
    (present : number < origins.length) : ∃ daemon calls, IsPath origins number daemon calls := by
  -- A path is found from its end: what a call is made on has a lower number than what it builds.
  induction number using Nat.strongRecOn with
  | ind number inductionHypothesis =>
      obtain ⟨⟨base, call⟩, made⟩ : ∃ origin, origins[number]? = some origin :=
        ⟨_, List.getElem?_eq_getElem present⟩
      cases base with
      | daemon daemon => exact ⟨daemon, [call], .daemon made⟩
      | request earlier =>
          have before := recorded.earlier made
          obtain ⟨daemon, calls, path⟩ :=
            inductionHypothesis earlier before (Nat.lt_trans before present)
          exact ⟨daemon, calls ++ [call], .request made path⟩

theorem IsPath.unique {number : Nat} {first second : Daemon} {calls others : List Call}
    (path : IsPath origins number first calls) (other : IsPath origins number second others) :
    second = first ∧ others = calls := by
  -- The number tells the last call of both paths, and what that was made on.
  induction path generalizing others with
  | daemon made =>
      cases other with
      | daemon same =>
          cases made.symm.trans same
          exact ⟨rfl, rfl⟩
      | request same path => cases made.symm.trans same
  | request made path inductionHypothesis =>
      cases other with
      | daemon same => cases made.symm.trans same
      | request same path =>
          cases made.symm.trans same
          obtain ⟨rfl, rfl⟩ := inductionHypothesis path
          exact ⟨rfl, rfl⟩

/-- The request at the end of a path holds what the calls on it gave. -/
theorem IsRecorded.holds (recorded : workshop.IsRecorded origins) {number : Nat}
    {daemon : Daemon} {calls : List Call} (path : IsPath origins number daemon calls) :
    ∃ request forms, workshop.requests[number]? = some request ∧
      HoldsPath request daemon calls forms := by
  induction path with
  | daemon made =>
      obtain ⟨source, request, begins, builds, there⟩ := recorded.made made
      cases begins
      obtain ⟨forms, holds⟩ := holdsPath_singleton builds
      exact ⟨request, forms, there, holds⟩
  | request made path inductionHypothesis =>
      obtain ⟨source, forms, found, holds⟩ := inductionHypothesis
      obtain ⟨other, request, begins, builds, there⟩ := recorded.made made
      cases found.symm.trans begins
      obtain ⟨others, holdsAll⟩ := holds.concat builds
      exact ⟨request, forms ++ others, there, holdsAll⟩

end Paths

section Acts

variable {workshop other : Workshop Daemon} {origins : List (Base Daemon × Call)}
  {base : Base Daemon} {call : Call} {request source : Request Daemon}

theorem getElem?_of_prefix {number : Nat} (grown : workshop.requests <+: other.requests)
    (present : workshop.requests[number]? = some request) :
    other.requests[number]? = some request := by
  obtain ⟨added, grown⟩ := grown
  obtain ⟨within, -⟩ := List.getElem?_eq_some_iff.mp present
  rw [← grown, List.getElem?_append_left within, present]

theorem base?_of_prefix (grown : workshop.requests <+: other.requests)
    (begins : workshop.base? base = some source) : other.base? base = some source := by
  cases base with
  | daemon daemon => exact begins
  | request number => exact getElem?_of_prefix grown begins

theorem build?_eq_some (builds : workshop.build? base call = some request) :
    ∃ source, workshop.base? base = some source ∧ call.build source = .ok request := by
  obtain ⟨answer, answers, built⟩ := Option.bind_eq_some_iff.mp builds
  obtain ⟨source, begins, rfl⟩ := Option.map_eq_some_iff.mp answers
  refine ⟨source, begins, ?_⟩
  cases result : call.build source with
  | ok made =>
      rw [result] at built
      exact congrArg Except.ok (Option.some.inj built)
  | error fault =>
      rw [result] at built
      cases built

theorem IsRecorded.of_requests (recorded : workshop.IsRecorded origins)
    (same : other.requests = workshop.requests) : other.IsRecorded origins := by
  have grown : workshop.requests <+: other.requests := same ▸ List.prefix_refl _
  refine ⟨same ▸ recorded.count, fun made => ?_, recorded.earlier⟩
  obtain ⟨source, request, begins, builds, present⟩ := recorded.made made
  exact ⟨source, request, base?_of_prefix grown begins, builds, getElem?_of_prefix grown present⟩

theorem origin_of_concat {number : Nat} {origin last : Base Daemon × Call}
    (made : (origins ++ [last])[number]? = some origin) :
    origins[number]? = some origin ∨ number = origins.length ∧ origin = last := by
  rcases Nat.lt_trichotomy number origins.length with within | rfl | beyond
  · exact .inl (List.getElem?_append_left within ▸ made)
  · rw [List.getElem?_concat_length] at made
    exact .inr ⟨rfl, (Option.some.inj made).symm⟩
  · rw [List.getElem?_eq_none (by rw [List.length_append]; exact beyond)] at made
    cases made

/-- What a call builds gets the next number, and what it is made on has a lower one. -/
theorem IsRecorded.concat (recorded : workshop.IsRecorded origins)
    (builds : workshop.build? base call = some request)
    (grown : other.requests = workshop.requests ++ [request]) :
    other.IsRecorded (origins ++ [(base, call)]) := by
  have keeps : workshop.requests <+: other.requests := grown ▸ List.prefix_append _ _
  obtain ⟨start, begins, built⟩ := build?_eq_some builds
  refine ⟨by simp [grown, recorded.count], fun made => ?_, fun made => ?_⟩
  · rcases origin_of_concat made with old | ⟨rfl, last⟩
    · obtain ⟨source, made, begins, builds, present⟩ := recorded.made old
      exact ⟨source, made, base?_of_prefix keeps begins, builds, getElem?_of_prefix keeps present⟩
    · cases last
      refine ⟨start, request, base?_of_prefix keeps begins, built, ?_⟩
      rw [grown, ← recorded.count, List.getElem?_concat_length]
  · rcases origin_of_concat made with old | ⟨rfl, last⟩
    · exact recorded.earlier old
    · cases last
      rw [← recorded.count]
      exact (List.getElem?_eq_some_iff.mp begins).1

end Acts

section Runs

variable [DecidableEq Daemon] {workshop start : Workshop Daemon}
  {origins : List (Base Daemon × Call)} {base : Base Daemon} {call : Call}

/-- Requests are only added, behind those that are there. -/
theorem requests_act (workshop : Workshop Daemon) (act : Act Daemon) :
    workshop.requests <+: (workshop.act act).requests := by
  cases act with
  | call base call => exact List.prefix_append _ _
  | run number =>
      rw [Workshop.act]
      split
      · exact List.prefix_refl _
      · exact List.prefix_refl _
  | move daemon move => exact List.prefix_refl _

theorem requests_follow (workshop : Workshop Daemon) (acts : List (Act Daemon)) :
    workshop.requests <+: (workshop.follow acts).requests := by
  induction acts generalizing workshop with
  | nil => exact List.prefix_refl _
  | cons act acts inductionHypothesis =>
      exact (requests_act workshop act).trans (inductionHypothesis _)

theorem IsRecorded.step (recorded : workshop.IsRecorded origins) (act : Act Daemon) :
    (workshop.act act).IsRecorded (origins ++ (workshop.origin? act).toList) := by
  cases act with
  | call base call =>
      cases builds : workshop.build? base call with
      | none =>
          rw [origin?, builds]
          exact List.append_nil _ ▸ recorded.of_requests (by simp [Workshop.act, builds])
      | some request =>
          rw [origin?, builds]
          exact recorded.concat builds (by simp [Workshop.act, builds])
  | run number =>
      refine List.append_nil _ ▸ recorded.of_requests ?_
      rw [Workshop.act]
      split
      · rfl
      · rfl
  | move daemon move => exact List.append_nil _ ▸ recorded.of_requests rfl

theorem IsRecorded.follow (recorded : workshop.IsRecorded origins) (acts : List (Act Daemon)) :
    (workshop.follow acts).IsRecorded (origins ++ workshop.origins acts) := by
  induction acts generalizing workshop origins with
  | nil => rwa [Workshop.origins, List.append_nil]
  | cons act acts inductionHypothesis =>
      rw [Workshop.origins, ← List.append_assoc]
      exact inductionHypothesis (recorded.step act)

theorem requests_of_ok {request : Request Daemon}
    (answers : workshop.answer? base call = some (.ok request)) :
    (workshop.act (.call base call)).requests = workshop.requests ++ [request] := by
  have builds : workshop.build? base call = some request := by
    rw [build?, answers]
    rfl
  rw [Workshop.act, builds, Option.toList_some]

/-- A call that fails changes nothing. -/
theorem act_of_error {fault : Fault}
    (fails : workshop.answer? base call = some (.error fault)) :
    workshop.act (.call base call) = workshop := by
  have unbuilt : workshop.build? base call = none := by
    rw [build?, fails]
    rfl
  rw [Workshop.act, unbuilt, Option.toList_none, List.append_nil]

theorem follow_append (before after : List (Act Daemon)) :
    start.follow (before ++ after) = (start.follow before).follow after :=
  List.foldl_append

/-- A run of a request is the evaluation of its form with its input by its daemon. -/
theorem act_run {number : Nat} {request : Request Daemon}
    (present : workshop.requests[number]? = some request) :
    workshop.act (.run number) =
      workshop.act (.move request.daemon (.event (.evaluate request.form request.input))) := by
  rw [Workshop.act, present]
  rfl

end Runs

/-- In a workshop that begins without requests, each request is what the calls on the path from its
daemon made it, and stays so. -/
theorem follow_isFaithful [DecidableEq Daemon] (sessions : Daemon → Session)
    (acts : List (Act Daemon)) : IsFaithful { sessions := sessions } acts := by
  have bare : IsRecorded { sessions := sessions } [] := ⟨rfl, nofun, nofun⟩
  have recorded := bare.follow acts
  rw [List.nil_append] at recorded
  constructor
  · intro number request present
    obtain ⟨within, -⟩ := List.getElem?_eq_some_iff.mp present
    obtain ⟨daemon, calls, path⟩ := recorded.exists_path (recorded.count ▸ within)
    refine ⟨(daemon, calls), path, fun other leads => ?_⟩
    obtain ⟨sameDaemon, sameCalls⟩ := path.unique leads
    exact Prod.ext sameDaemon sameCalls
  · intro number daemon calls path
    obtain ⟨request, forms, present, holds⟩ := recorded.holds path
    refine ⟨request, forms, present, holds, ?_⟩
    rw [act_run present, holds.form_eq, holds.input_eq, holds.daemon_eq]
  · rintro before after rfl number request present
    rw [follow_append]
    exact getElem?_of_prefix (requests_follow _ after) present
  · intro base call request answers
    exact requests_of_ok answers
  · intro base call fault fails
    obtain ⟨source, -, refused⟩ := Option.map_eq_some_iff.mp fails
    exact ⟨isOfName_of_build refused, act_of_error fails⟩

/-- Two requests go on from a third, which stays as it is. -/
example : (follow { sessions := fun () => .sample }
    [.call (.daemon ()) (.load (.text "org") .absent), .call (.request 0) (.append [.int 1]),
      .run 1, .call (.request 0) (.load (.text "a b") .absent),
      .call (.request 0) (.append [.int 2, .int 3])]).requests.map Request.describe =
      [.ok "<Request (progn (require 'org))>", .ok "<Request (progn (require 'org) 1)>",
        .ok "<Request (progn (require 'org) 2 3)>"] := by
  decide +kernel

end Workshop

end EmacsSession
