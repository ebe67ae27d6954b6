import Mathlib.Logic.Function.Basic
import SyncPods.Proofs.SubmissionOutcome

/-!
# Submissions side by side

Any number of submissions and a server of pods send each other messages, in any order. Messages may
be late, and a submission may give up on its answer. The server keeps one pod of a name, but may
fail for other reasons, before or after it has kept the pod. `Invariant` holds after each step, and
so after each run: a submission sends one request and believes just what the answer says, so of all
submissions for a name one at most succeeds.
-/

namespace SyncPods.Cluster

/-! ## Programs that ask a cluster -/

/-- A program that asks a cluster for something before it is done, and goes on with the reply. -/
inductive Exchange (α : Type) where
  | done (value : α)
  | ask (request : CreateRequest) (next : Reply → Exchange α)

namespace Exchange

def bind {α β : Type} : Exchange α → (α → Exchange β) → Exchange β
  | done value, f => f value
  | ask request next, f => .ask request fun reply => (next reply).bind f

instance : Monad Exchange where
  pure := done
  bind := bind

def send (request : CreateRequest) : Exchange Reply := .ask request .done

/-- A submission as what it asks for and what it makes of the reply. -/
def submission (namespaceName : String) (pod : Pod) : Exchange (Except SubmitError String) :=
  submit send namespaceName pod

end Exchange

/-! ## Messages -/

/-- What is called for in one submission. -/
structure Call where
  namespaceName : String
  pod : Pod

/-- A submission under way: it runs, or waits for a reply to go on with. -/
inductive Client where
  | running (program : Exchange (Except SubmitError String))
  | waiting (next : Reply → Exchange (Except SubmitError String))

def Client.result? : Client → Option (Except SubmitError String)
  | running (.done result) => some result
  | _ => none

/-- What identifies a pod to the server: its path and its name. -/
def CreateRequest.key (request : CreateRequest) : String × String :=
  (request.address.path, request.pod.metadata.name.getD "")

/-- The submissions, the messages under way, and the pods that the server holds, as it was asked
for them. -/
structure World (ι : Type) where
  client : ι → Client
  requests : List (ι × CreateRequest)
  replies : List (ι × Reply)
  held : List CreateRequest

/-- What the server does with a request: its reply, and the pods that it holds before and after. -/
structure Service where
  request : CreateRequest
  reply : Reply
  before : List CreateRequest
  after : List CreateRequest

namespace Service

/-- The server takes the pod in and says so, refuses a name that is taken, or fails in some other
way, whether or not it has taken the pod in. -/
inductive Lawful : Service → Prop
  | created {request : CreateRequest} {reply : Reply} {held : List CreateRequest}
      (free : request.key ∉ held.map (·.key)) (accepts : reply.outcome = .ok ()) :
      Lawful ⟨request, reply, held, held ++ [request]⟩
  | conflict {request : CreateRequest} {reply : Reply} {held : List CreateRequest}
      {error : RequestError} (taken : request.key ∈ held.map (·.key))
      (refuses : reply.outcome = .error error) (isConflict : error.IsConflict) :
      Lawful ⟨request, reply, held, held⟩
  | failed {request : CreateRequest} {reply : Reply} {held : List CreateRequest}
      {error : RequestError} (fails : reply.outcome = .error error)
      (noConflict : ¬ error.IsConflict) : Lawful ⟨request, reply, held, held⟩
  | failedLate {request : CreateRequest} {reply : Reply} {held : List CreateRequest}
      {error : RequestError} (free : request.key ∉ held.map (·.key))
      (fails : reply.outcome = .error error) (noConflict : ¬ error.IsConflict) :
      Lawful ⟨request, reply, held, held ++ [request]⟩

/-- The server takes the pod in. -/
def Stores (service : Service) : Prop :=
  service.after = service.before ++ [service.request]

variable {service : Service}

theorem Lawful.after_cases (lawful : service.Lawful) :
    service.after = service.before ∨
      (service.request.key ∉ service.before.map (·.key) ∧ service.Stores) := by
  cases lawful with
  | created free accepts => exact .inr ⟨free, rfl⟩
  | conflict taken refuses isConflict => exact .inl rfl
  | failed fails noConflict => exact .inl rfl
  | failedLate free fails noConflict => exact .inr ⟨free, rfl⟩

theorem Lawful.free (lawful : service.Lawful) (stores : service.Stores) :
    service.request.key ∉ service.before.map (·.key) := by
  rcases lawful.after_cases with same | ⟨free, _⟩
  · simp [same, Stores] at stores
  · exact free

/-- What is accepted is stored. -/
theorem Lawful.stores (lawful : service.Lawful) (accepts : service.reply.outcome = .ok ()) :
    service.Stores := by
  cases lawful with
  | created free _ => rfl
  | conflict taken refuses isConflict => cases accepts.symm.trans refuses
  | failed fails noConflict => cases accepts.symm.trans fails
  | failedLate free fails noConflict => rfl

/-- What is refused for its name changes nothing. -/
theorem Lawful.unchanged {error : RequestError} (lawful : service.Lawful)
    (refuses : service.reply.outcome = .error error) (isConflict : error.IsConflict) :
    service.request.key ∈ service.before.map (·.key) ∧ service.after = service.before := by
  cases lawful with
  | created free accepts => cases accepts.symm.trans refuses
  | conflict taken _ _ => exact ⟨taken, rfl⟩
  | failed fails noConflict =>
      obtain rfl := Except.error.inj (fails.symm.trans refuses)
      exact absurd isConflict noConflict
  | failedLate free fails noConflict =>
      obtain rfl := Except.error.inj (fails.symm.trans refuses)
      exact absurd isConflict noConflict

end Service

/-- What happens in a run: a submission sends a request, the server sees to it, or a submission is
given a reply. -/
inductive Event (ι : Type) where
  | sends (i : ι) (request : CreateRequest)
  | serves (i : ι) (service : Service)
  | hears (i : ι) (reply : Reply)

/-- A reply that is made up where nothing comes back. -/
inductive Reply.IsSilence : Reply → Prop
  | noAnswer (reason : String) (causes : List String) : IsSilence (.noAnswer reason causes)

section Runs

variable {ι : Type} [DecidableEq ι]

/-- What may happen next. -/
inductive Step : World ι → Event ι → World ι → Prop
  | send {w : World ι} {i : ι} {request : CreateRequest}
      {next : Reply → Exchange (Except SubmitError String)}
      (asks : w.client i = .running (.ask request next)) :
      Step w (.sends i request)
        { w with
          client := Function.update w.client i (.waiting next)
          requests := w.requests ++ [(i, request)] }
  | serve {w : World ι} {i : ι} {service : Service} (earlier later : List (ι × CreateRequest))
      (arrives : w.requests = earlier ++ (i, service.request) :: later)
      (current : service.before = w.held) (lawful : service.Lawful) :
      Step w (.serves i service)
        { w with
          requests := earlier ++ later
          replies := w.replies ++ [(i, service.reply)]
          held := service.after }
  | hear {w : World ι} {i : ι} {reply : Reply}
      {next : Reply → Exchange (Except SubmitError String)} (earlier later : List (ι × Reply))
      (waits : w.client i = .waiting next) (arrives : w.replies = earlier ++ (i, reply) :: later) :
      Step w (.hears i reply)
        { w with
          client := Function.update w.client i (.running (next reply))
          replies := earlier ++ later }
  | giveUp {w : World ι} {i : ι} {reply : Reply}
      {next : Reply → Exchange (Except SubmitError String)}
      (waits : w.client i = .waiting next) (silence : reply.IsSilence) :
      Step w (.hears i reply)
        { w with client := Function.update w.client i (.running (next reply)) }

/-- All submissions are about to start, and the server holds some pods. -/
def World.start (calls : ι → Call) (held : List CreateRequest) : World ι where
  client i := .running (Exchange.submission (calls i).namespaceName (calls i).pod)
  requests := []
  replies := []
  held := held

/-- What has happened, in order, and what came of it. -/
inductive Run (start : World ι) : List (Event ι) → World ι → Prop
  | start : Run start [] start
  | step {events : List (Event ι)} {w w' : World ι} {event : Event ι} (run : Run start events w)
      (step : Step w event w') : Run start (events ++ [event]) w'

/-! ## What has happened to one submission -/

variable (i : ι)

/-- The requests that a submission has sent. -/
def sentBy (events : List (Event ι)) : List CreateRequest :=
  events.filterMap fun
    | .sends j request => if j = i then some request else none
    | _ => none

/-- What the server has done with the requests of a submission. -/
def servicesFor (events : List (Event ι)) : List Service :=
  events.filterMap fun
    | .serves j service => if j = i then some service else none
    | _ => none

/-- The replies that a submission was given. -/
def heardBy (events : List (Event ι)) : List Reply :=
  events.filterMap fun
    | .hears j reply => if j = i then some reply else none
    | _ => none

/-- The requests of a submission that are under way. -/
def underWay (requests : List (ι × CreateRequest)) : List CreateRequest :=
  requests.filterMap fun m => if m.1 = i then some m.2 else none

section History

variable (j : ι) (request : CreateRequest) (reply : Reply) (service : Service)
  (events events' : List (Event ι)) (requests requests' : List (ι × CreateRequest))

theorem sentBy_append : sentBy i (events ++ events') = sentBy i events ++ sentBy i events' :=
  List.filterMap_append

theorem servicesFor_append :
    servicesFor i (events ++ events') = servicesFor i events ++ servicesFor i events' :=
  List.filterMap_append

theorem heardBy_append : heardBy i (events ++ events') = heardBy i events ++ heardBy i events' :=
  List.filterMap_append

theorem underWay_append :
    underWay i (requests ++ requests') = underWay i requests ++ underWay i requests' :=
  List.filterMap_append

@[simp]
theorem sentBy_sends : sentBy i [.sends j request] = if j = i then [request] else [] := by
  by_cases same : j = i <;> simp [sentBy, same]

@[simp]
theorem sentBy_serves : sentBy i [.serves j service] = [] := rfl

@[simp]
theorem sentBy_hears : sentBy i [.hears j reply] = [] := rfl

@[simp]
theorem servicesFor_sends : servicesFor i [.sends j request] = [] := rfl

@[simp]
theorem servicesFor_serves :
    servicesFor i [.serves j service] = if j = i then [service] else [] := by
  by_cases same : j = i <;> simp [servicesFor, same]

@[simp]
theorem servicesFor_hears : servicesFor i [.hears j reply] = [] := rfl

@[simp]
theorem heardBy_sends : heardBy i [.sends j request] = [] := rfl

@[simp]
theorem heardBy_serves : heardBy i [.serves j service] = [] := rfl

@[simp]
theorem heardBy_hears : heardBy i [.hears j reply] = if j = i then [reply] else [] := by
  by_cases same : j = i <;> simp [heardBy, same]

@[simp]
theorem underWay_singleton : underWay i [(j, request)] = if j = i then [request] else [] := by
  by_cases same : j = i <;> simp [underWay, same]

theorem underWay_cons :
    underWay i ((j, request) :: requests) =
      (if j = i then [request] else []) ++ underWay i requests := by
  rw [← List.singleton_append, underWay_append, underWay_singleton]

end History

/-! ## One submission -/

/-- How far a submission is, by what it has sent and heard. -/
inductive Phase (call : Call) : Client → List CreateRequest → List Reply → Prop
  | refused {error : SubmitError}
      (refuses : createRequest call.namespaceName call.pod = .error error) :
      Phase call (.running (.done (.error error))) [] []
  | ready {name : String} {request : CreateRequest}
      (named : createRequest call.namespaceName call.pod = .ok (name, request)) :
      Phase call (.running (.ask request fun reply => .done (submitted name reply))) [] []
  | waiting {name : String} {request : CreateRequest}
      (named : createRequest call.namespaceName call.pod = .ok (name, request)) :
      Phase call (.waiting fun reply => .done (submitted name reply)) [request] []
  | answered {name : String} {request : CreateRequest}
      (named : createRequest call.namespaceName call.pod = .ok (name, request)) (reply : Reply) :
      Phase call (.running (.done (submitted name reply))) [request] [reply]

theorem phase_start (call : Call) :
    Phase call (.running (Exchange.submission call.namespaceName call.pod)) [] [] := by
  rw [Exchange.submission, submit]
  cases named : createRequest call.namespaceName call.pod with
  | error error => exact .refused named
  | ok sent => exact .ready named

section Phase

variable {call : Call} {sent : List CreateRequest} {heard : List Reply}
  {next : Reply → Exchange (Except SubmitError String)}

theorem Phase.send {request : CreateRequest}
    (phase : Phase call (.running (.ask request next)) sent heard) :
    sent = [] ∧ heard = [] ∧ Phase call (.waiting next) [request] [] := by
  cases phase with
  | ready named => exact ⟨rfl, rfl, .waiting named⟩

theorem Phase.hear (phase : Phase call (.waiting next) sent heard) :
    ∃ request, sent = [request] ∧ heard = [] ∧
      ∀ reply, Phase call (.running (next reply)) [request] [reply] := by
  cases phase with
  | @waiting name request named => exact ⟨request, rfl, rfl, .answered named⟩

theorem Phase.sent_length_le {client : Client} (phase : Phase call client sent heard) :
    sent.length ≤ 1 := by
  cases phase <;> simp

theorem Phase.unnamed {client : Client} (phase : Phase call client sent heard)
    (unnamed : call.pod.metadata.name = none) :
    sent = [] ∧ client.result? = some (.error .missingName) := by
  have refused : createRequest call.namespaceName call.pod = .error .missingName :=
    createRequest_of_unnamed unnamed
  cases phase with
  | refused refuses =>
      obtain rfl := Except.error.inj (refuses.symm.trans refused)
      exact ⟨rfl, rfl⟩
  | ready named => cases named.symm.trans refused
  | waiting named => cases named.symm.trans refused
  | answered named reply => cases named.symm.trans refused

/-- The result of a submission that heard a reply is what the reply says. -/
theorem Phase.result?_of_heard {client : Client} {reply : Reply}
    (phase : Phase call client sent heard) (member : reply ∈ heard) :
    ∃ name request, createRequest call.namespaceName call.pod = .ok (name, request) ∧
      sent = [request] ∧ client.result? = some (submitted name reply) := by
  cases phase with
  | refused refuses => cases member
  | ready named => cases member
  | waiting named => cases member
  | answered named reply' =>
      obtain rfl := List.mem_singleton.mp member
      exact ⟨_, _, named, rfl, rfl⟩

/-- A submission that has a result either never sent its request or has heard a reply. -/
theorem Phase.of_result? {client : Client} {result : Except SubmitError String}
    (phase : Phase call client sent heard) (ends : client.result? = some result) :
    (∃ error, createRequest call.namespaceName call.pod = .error error ∧
      result = .error error) ∨ ∃ reply, reply ∈ heard := by
  cases phase with
  | @refused error refuses => exact .inl ⟨error, refuses, (Option.some.inj ends).symm⟩
  | ready named => cases ends
  | waiting named => cases ends
  | answered named reply => exact .inr ⟨reply, List.mem_singleton_self reply⟩

theorem Phase.of_ok {client : Client} {n : String} (phase : Phase call client sent heard)
    (ends : client.result? = some (.ok n)) :
    ∃ request reply, createRequest call.namespaceName call.pod = .ok (n, request) ∧
      sent = [request] ∧ reply ∈ heard ∧ reply.outcome = .ok () := by
  rcases phase.of_result? ends with ⟨error, _, ⟨⟩⟩ | ⟨reply, member⟩
  obtain ⟨name, request, named, sends, result⟩ := phase.result?_of_heard member
  obtain ⟨rfl, accepts⟩ := submitted_eq_ok_iff.mp (Option.some.inj (result.symm.trans ends))
  exact ⟨request, reply, named, sends, member, accepts⟩

theorem Phase.alreadyExists_iff {client : Client} {n : String}
    (phase : Phase call client sent heard) :
    client.result? = some (.error (.alreadyExists n)) ↔
      call.pod.metadata.name = some n ∧
        ∃ reply ∈ heard, ∃ error, reply.outcome = .error error ∧ error.IsConflict := by
  constructor
  · intro ends
    rcases phase.of_result? ends with ⟨error, refuses, same⟩ | ⟨reply, member⟩
    · rcases createRequest_eq_error refuses with ⟨_, rfl⟩ | ⟨_, rfl⟩ <;> cases same
    · obtain ⟨name, request, named, _, result⟩ := phase.result?_of_heard member
      obtain ⟨rfl, refuses⟩ :=
        submitted_eq_alreadyExists_iff.mp (Option.some.inj (result.symm.trans ends))
      exact ⟨(createRequest_eq_ok named).1, reply, member, refuses⟩
  · rintro ⟨given, reply, member, refuses⟩
    obtain ⟨name, request, named, _, result⟩ := phase.result?_of_heard member
    obtain rfl := Option.some.inj (given.symm.trans (createRequest_eq_ok named).1)
    rw [result, submitted_eq_alreadyExists_iff.mpr ⟨rfl, refuses⟩]

end Phase

variable {calls : ι → Call} {events : List (Event ι)} {w w' : World ι} {event : Event ι}

/-- Every submission is in one of its phases. -/
def InPhase (calls : ι → Call) (events : List (Event ι)) (w : World ι) : Prop :=
  ∀ i, Phase (calls i) (w.client i) (sentBy i events)
    (heardBy i events)

theorem inPhase_hear {reply : Reply} {j : ι} {next : Reply → Exchange (Except SubmitError String)}
    (inPhase : InPhase calls events w) (waits : w.client j = .waiting next) (i : ι) :
    Phase (calls i) (Function.update w.client j (.running (next reply)) i)
      (sentBy i (events ++ [Event.hears j reply]))
      (heardBy i (events ++ [Event.hears j reply])) := by
  have phase := inPhase i
  rw [sentBy_append, heardBy_append]
  by_cases same : j = i
  · subst same
    rw [waits] at phase
    obtain ⟨request, sent, heard, next⟩ := phase.hear
    simpa [sent, heard] using next reply
  · simpa [same, Ne.symm same] using phase

theorem inPhase_step (inPhase : InPhase calls events w) (step : Step w event w') :
    InPhase calls (events ++ [event]) w' := by
  intro i
  have phase := inPhase i
  cases step with
  | @send j request next asks =>
      rw [sentBy_append, heardBy_append]
      by_cases same : j = i
      · subst same
        rw [asks] at phase
        obtain ⟨sent, heard, next⟩ := phase.send
        simpa [sent, heard] using next
      · simpa [same, Ne.symm same] using phase
  | serve earlier later arrives current lawful =>
      rw [sentBy_append, heardBy_append]
      simpa using phase
  | hear earlier later waits arrives => exact inPhase_hear inPhase waits i
  | giveUp waits silence => exact inPhase_hear inPhase waits i

/-! ## The messages -/

/-- Where the request of a submission is, by what was sent and served. -/
inductive Transit : List CreateRequest → List CreateRequest → List Service → Prop
  | unsent : Transit [] [] []
  | underWay (request : CreateRequest) : Transit [request] [request] []
  | served (service : Service) : Transit [service.request] [] [service]

/-- The server has given a reply to the request of a submission. -/
def Told (i : ι) (events : List (Event ι)) (reply : Reply) : Prop :=
  ∃ service ∈ servicesFor i events, service.reply = reply

/-- Every request is at one place, and a submission hears what the server said, or silence. -/
structure Delivers (events : List (Event ι)) (w : World ι) : Prop where
  transit : ∀ i, Transit (sentBy i events) (underWay i w.requests) (servicesFor i events)
  replied : ∀ i reply, (i, reply) ∈ w.replies → Told i events reply
  heard : ∀ i, ∀ reply ∈ heardBy i events, reply.IsSilence ∨ Told i events reply

theorem Told.later {i : ι} {reply : Reply} (told : Told i events reply) :
    Told i (events ++ [event]) reply := by
  obtain ⟨service, member, same⟩ := told
  rw [Told, servicesFor_append]
  exact ⟨service, List.mem_append_left _ member, same⟩

theorem Transit.send {requests : List CreateRequest} {services : List Service}
    (transit : Transit [] requests services) (request : CreateRequest) :
    Transit [request] (requests ++ [request]) services := by
  cases transit with
  | unsent => exact .underWay request

theorem Transit.serve {sent earlier later : List CreateRequest} {services : List Service}
    {service : Service} (transit : Transit sent (earlier ++ service.request :: later) services) :
    Transit sent (earlier ++ later) (services ++ [service]) := by
  generalize split : earlier ++ service.request :: later = requests at transit
  cases transit with
  | unsent => simp at split
  | underWay request =>
      obtain ⟨rfl, rfl, rfl⟩ : earlier = [] ∧ service.request = request ∧ later = [] := by
        simpa [List.append_eq_singleton_iff] using split
      exact .served service
  | served service => simp at split

/-- Who hears of something that was said before, or of nothing, hears what the server said. -/
theorem heard_later (delivers : Delivers events w) {reply : Reply} {j : ι}
    (believable : reply.IsSilence ∨ Told j events reply) (i : ι) :
    ∀ heard ∈ heardBy i (events ++ [Event.hears j reply]),
      heard.IsSilence ∨ Told i (events ++ [Event.hears j reply]) heard := by
  intro heard member
  rw [heardBy_append, List.mem_append] at member
  rcases member with earlier | last
  · exact (delivers.heard i heard earlier).imp_right Told.later
  · by_cases same : j = i
    · subst same
      obtain rfl : heard = reply := by simpa using last
      exact believable.imp_right Told.later
    · simp [same] at last

theorem delivers_step (inPhase : InPhase calls events w) (delivers : Delivers events w)
    (step : Step w event w') : Delivers (events ++ [event]) w' := by
  cases step with
  | @send j request next asks =>
      constructor
      case transit =>
        intro i
        have transit := delivers.transit i
        rw [sentBy_append, underWay_append, servicesFor_append]
        by_cases same : j = i
        · subst same
          have phase := inPhase j
          rw [asks] at phase
          rw [phase.send.1] at transit ⊢
          simpa using transit.send request
        · simpa [same] using transit
      case replied => exact fun i reply member => (delivers.replied i reply member).later
      case heard =>
        intro i reply member
        rw [heardBy_append, heardBy_sends, List.append_nil] at member
        exact (delivers.heard i reply member).imp_right Told.later
  | @serve j service earlier later arrives current lawful =>
      -- The request gets from its way to the server, and the reply on its own.
      constructor
      case transit =>
        intro i
        have transit := delivers.transit i
        rw [arrives, underWay_append, underWay_cons] at transit
        rw [sentBy_append, underWay_append, servicesFor_append]
        by_cases same : j = i
        · subst same
          rw [if_pos rfl, List.singleton_append] at transit
          simpa using transit.serve
        · simpa [same] using transit
      case replied =>
        intro i reply member
        rcases List.mem_append.mp member with earlier | last
        · exact (delivers.replied i reply earlier).later
        · obtain ⟨rfl, rfl⟩ := Prod.mk.inj (List.mem_singleton.mp last)
          exact ⟨service, by simp [servicesFor_append], rfl⟩
      case heard =>
        intro i reply member
        rw [heardBy_append, heardBy_serves, List.append_nil] at member
        exact (delivers.heard i reply member).imp_right Told.later
  | @hear j reply next earlier later waits arrives =>
      have told : Told j events reply := delivers.replied j reply (by simp [arrives])
      constructor
      case transit =>
        intro i
        simpa [sentBy_append, servicesFor_append] using delivers.transit i
      case replied =>
        intro i reply' member
        have before : (i, reply') ∈ w.replies := by
          rw [arrives]
          exact List.mem_append.mpr
            ((List.mem_append.mp member).imp_right (List.mem_cons_of_mem _))
        exact (delivers.replied i reply' before).later
      case heard => exact heard_later delivers (.inr told)
  | @giveUp j reply next waits silence =>
      constructor
      case transit =>
        intro i
        simpa [sentBy_append, servicesFor_append] using delivers.transit i
      case replied => exact fun i reply member => (delivers.replied i reply member).later
      case heard => exact heard_later delivers (.inl silence)

/-! ## The server -/

/-- The server keeps what it has taken in, once for each key. -/
structure Keeps (events : List (Event ι)) (w : World ι) : Prop where
  lawful : ∀ i, ∀ service ∈ servicesFor i events, service.Lawful
  kept : ∀ i, ∀ service ∈ servicesFor i events, service.Stores → service.request ∈ w.held
  apart : ∀ i, ∀ service ∈ servicesFor i events, service.Stores →
    ∀ j, ∀ service' ∈ servicesFor j events, service'.Stores →
      service.request.key = service'.request.key → i = j
  distinct : (w.held.map (·.key)).Nodup

theorem keeps_unserved (keeps : Keeps events w) (held : w'.held = w.held)
    (unserved : ∀ i, servicesFor i [event] = []) : Keeps (events ++ [event]) w' := by
  have same (i : ι) : servicesFor i (events ++ [event]) = servicesFor i events := by
    rw [servicesFor_append, unserved, List.append_nil]
  constructor
  case lawful => simpa only [same] using keeps.lawful
  case kept => simpa only [same, held] using keeps.kept
  case apart => simpa only [same] using keeps.apart
  case distinct => simpa only [held] using keeps.distinct

theorem mem_servicesFor_serves {i j : ι} {service service' : Service}
    (member : service' ∈ servicesFor i (events ++ [Event.serves j service])) :
    service' ∈ servicesFor i events ∨ (i = j ∧ service' = service) := by
  rw [servicesFor_append, List.mem_append] at member
  refine member.imp_right fun last => ?_
  by_cases same : j = i
  · exact ⟨same.symm, by simpa [same] using last⟩
  · simp [same] at last

theorem keeps_step (keeps : Keeps events w) (step : Step w event w') :
    Keeps (events ++ [event]) w' := by
  cases step with
  | send asks => exact keeps_unserved keeps rfl fun _ => rfl
  | hear earlier later waits arrives => exact keeps_unserved keeps rfl fun _ => rfl
  | giveUp waits silence => exact keeps_unserved keeps rfl fun _ => rfl
  | @serve j service earlier later arrives current lawful =>
      have grows : ∀ request ∈ w.held, request ∈ service.after := by
        intro request member
        rw [← current] at member
        rcases lawful.after_cases with same | ⟨_, stores⟩
        · rwa [same]
        · rw [stores]
          exact List.mem_append_left _ member
      -- What is taken in now has another key than all that was taken in before.
      have fresh {i : ι} {service' : Service} (member : service' ∈ servicesFor i events)
          (stores' : service'.Stores) (stores : service.Stores) :
          service'.request.key ≠ service.request.key := by
        intro same
        have free := lawful.free stores
        rw [current, ← same] at free
        exact free (List.mem_map_of_mem (keeps.kept i service' member stores'))
      constructor
      case lawful =>
        intro i service' member
        rcases mem_servicesFor_serves member with earlier | ⟨rfl, rfl⟩
        · exact keeps.lawful i service' earlier
        · exact lawful
      case kept =>
        intro i service' member stores
        rcases mem_servicesFor_serves member with earlier | ⟨rfl, rfl⟩
        · exact grows _ (keeps.kept i service' earlier stores)
        · exact stores ▸ List.mem_append_right _ List.mem_cons_self
      case apart =>
        intro i service' member stores k service'' member' stores' same
        rcases mem_servicesFor_serves member with earlier | ⟨rfl, rfl⟩
        · rcases mem_servicesFor_serves member' with earlier' | ⟨rfl, rfl⟩
          · exact keeps.apart i service' earlier stores k service'' earlier' stores' same
          · exact absurd same (fresh earlier stores stores')
        · rcases mem_servicesFor_serves member' with earlier' | ⟨rfl, rfl⟩
          · exact absurd same.symm (fresh earlier' stores' stores)
          · rfl
      case distinct =>
        have before := keeps.distinct
        rw [← current] at before
        rcases lawful.after_cases with same | ⟨free, stores⟩
        · rwa [same]
        · rw [stores, List.map_append, List.nodup_append]
          refine ⟨before, by simp, ?_⟩
          rintro key earlier own member rfl
          obtain rfl := List.mem_singleton.mp member
          exact free earlier

/-! ## Runs -/

/-- What holds of a run at every time. -/
structure Invariant (calls : ι → Call) (events : List (Event ι)) (w : World ι) : Prop where
  inPhase : InPhase calls events w
  delivers : Delivers events w
  keeps : Keeps events w

theorem invariant_step (invariant : Invariant calls events w) (step : Step w event w') :
    Invariant calls (events ++ [event]) w' where
  inPhase := inPhase_step invariant.inPhase step
  delivers := delivers_step invariant.inPhase invariant.delivers step
  keeps := keeps_step invariant.keeps step

theorem invariant_start {held : List CreateRequest} (distinct : (held.map (·.key)).Nodup) :
    Invariant calls [] (World.start calls held) := by
  have unserved (i : ι) (service : Service) : service ∉ servicesFor i [] := List.not_mem_nil
  constructor
  case inPhase => exact fun i => phase_start (calls i)
  case delivers =>
    constructor
    case transit => exact fun i => .unsent
    case replied => exact fun i reply member => absurd member List.not_mem_nil
    case heard => exact fun i reply member => absurd member List.not_mem_nil
  case keeps =>
    constructor
    case lawful => exact fun i service member => absurd member (unserved i service)
    case kept => exact fun i service member => absurd member (unserved i service)
    case apart => exact fun i service member => absurd member (unserved i service)
    case distinct => exact distinct

theorem invariant_run {held : List CreateRequest} (distinct : (held.map (·.key)).Nodup)
    (run : Run (World.start calls held) events w) : Invariant calls events w := by
  induction run with
  | start => exact invariant_start distinct
  | step _ step ih => exact invariant_step ih step

theorem outcome_of_silence {reply : Reply} (silence : reply.IsSilence) :
    ∃ error, reply.outcome = .error error ∧ ¬ error.IsConflict := by
  cases silence with
  | noAnswer reason causes =>
      refine ⟨.noAnswer reason causes, rfl, ?_⟩
      rintro ⟨status, ⟨⟩, _⟩

theorem Transit.services_of_mem {sent requests : List CreateRequest} {services : List Service}
    {service : Service} (transit : Transit sent requests services)
    (member : service ∈ services) : sent = [service.request] ∧ services = [service] := by
  cases transit with
  | unsent => cases member
  | underWay request => cases member
  | served service' =>
      obtain rfl := List.mem_singleton.mp member
      exact ⟨rfl, rfl⟩

theorem result?_update {client : ι → Client} {i j : ι} {result : Except SubmitError String}
    (ends : (client i).result? = some result) (busy : (client j).result? = none)
    (changed : Client) : (Function.update client j changed i).result? = some result := by
  have other : i ≠ j := by
    rintro rfl
    cases busy.symm.trans ends
  rwa [Function.update_of_ne other]

/-- A submission that is done has the same result forever. -/
theorem result?_step {i : ι} {result : Except SubmitError String}
    (ends : (w.client i).result? = some result) (step : Step w event w') :
    (w'.client i).result? = some result := by
  cases step with
  | send asks => exact result?_update ends (congrArg Client.result? asks) _
  | serve earlier later arrives current lawful => exact ends
  | hear earlier later waits arrives => exact result?_update ends (congrArg Client.result? waits) _
  | giveUp waits silence => exact result?_update ends (congrArg Client.result? waits) _

/-- What is said of submissions that run side by side. -/
structure AtMostOnce (calls : ι → Call) (events : List (Event ι)) (w : World ι) : Prop where
  sendsOnce : ∀ i, (sentBy i events).length ≤ 1
  unnamed : ∀ i, (calls i).pod.metadata.name = none →
    sentBy i events = [] ∧ (w.client i).result? = some (.error .missingName)
  succeeds : ∀ i n, (w.client i).result? = some (.ok n) →
    (calls i).pod.metadata.name = some n ∧ ∃ service ∈ servicesFor i events, service.Stores ∧
      sentBy i events = [service.request] ∧ service.request.pod = (calls i).pod ∧
      service.request ∈ w.held
  conflicts : ∀ i n, (w.client i).result? = some (.error (.alreadyExists n)) ↔
    (calls i).pod.metadata.name = some n ∧
      ∃ reply ∈ heardBy i events, ∃ error, reply.outcome = .error error ∧ error.IsConflict
  fails : ∀ i, ∀ reply ∈ heardBy i events, ∀ error, reply.outcome = .error error →
    ¬ error.IsConflict → (w.client i).result? = some (.error (.request error))
  onePerName : ∀ i j n, (calls i).namespaceName = (calls j).namespaceName →
    (w.client i).result? = some (.ok n) → (w.client j).result? = some (.ok n) → i = j
  heldOnce : (w.held.map (·.key)).Nodup
  unchanged : ∀ i n, (w.client i).result? = some (.error (.alreadyExists n)) →
    ∃ service, servicesFor i events = [service] ∧ service.after = service.before
  final : ∀ i result event w', (w.client i).result? = some result → Step w event w' →
    (w'.client i).result? = some result

theorem Invariant.service_of_ok (invariant : Invariant calls events w) {i : ι} {n : String}
    (ends : (w.client i).result? = some (.ok n)) :
    ∃ service ∈ servicesFor i events, service.Stores ∧
      createRequest (calls i).namespaceName (calls i).pod = .ok (n, service.request) := by
  obtain ⟨request, reply, named, sends, heard, accepts⟩ := (invariant.inPhase i).of_ok ends
  rcases invariant.delivers.heard i reply heard with silence | ⟨service, member, rfl⟩
  · obtain ⟨error, fails, _⟩ := outcome_of_silence silence
    cases accepts.symm.trans fails
  · obtain ⟨sends', _⟩ := (invariant.delivers.transit i).services_of_mem member
    obtain ⟨rfl, _⟩ := List.cons.inj (sends.symm.trans sends')
    exact ⟨service, member, (invariant.keeps.lawful i service member).stores accepts, named⟩

theorem Invariant.atMostOnce (invariant : Invariant calls events w) :
    AtMostOnce calls events w := by
  constructor
  case sendsOnce => exact fun i => (invariant.inPhase i).sent_length_le
  case unnamed => exact fun i unnamed => (invariant.inPhase i).unnamed unnamed
  case succeeds =>
    intro i n ends
    obtain ⟨service, member, stores, named⟩ := invariant.service_of_ok ends
    obtain ⟨given, samePod, _⟩ := createRequest_eq_ok named
    have sent := ((invariant.delivers.transit i).services_of_mem member).1
    exact ⟨given, service, member, stores, sent, samePod,
      invariant.keeps.kept i service member stores⟩
  case conflicts => exact fun i n => (invariant.inPhase i).alreadyExists_iff
  case fails =>
    intro i reply heard error fails noConflict
    obtain ⟨name, request, _, _, result⟩ := (invariant.inPhase i).result?_of_heard heard
    rw [result, submitted_of_failure fails noConflict]
  case onePerName =>
    intro i j n sameNamespace ends ends'
    obtain ⟨service, member, stores, named⟩ := invariant.service_of_ok ends
    obtain ⟨service', member', stores', named'⟩ := invariant.service_of_ok ends'
    obtain ⟨given, samePod, address⟩ := createRequest_eq_ok named
    obtain ⟨given', samePod', address'⟩ := createRequest_eq_ok named'
    rw [sameNamespace] at address
    have sameAddress := Option.some.inj (address.symm.trans address')
    have sameKey : service.request.key = service'.request.key := by
      rw [CreateRequest.key, CreateRequest.key, samePod, samePod', given, given', sameAddress]
    exact invariant.keeps.apart i service member stores j service' member' stores' sameKey
  case heldOnce => exact invariant.keeps.distinct
  case unchanged =>
    intro i n ends
    obtain ⟨_, reply, heard, error, refuses, isConflict⟩ :=
      (invariant.inPhase i).alreadyExists_iff.mp ends
    rcases invariant.delivers.heard i reply heard with silence | ⟨service, member, rfl⟩
    · obtain ⟨error', fails, noConflict⟩ := outcome_of_silence silence
      obtain rfl := Except.error.inj (fails.symm.trans refuses)
      exact absurd isConflict noConflict
    · have lawful := invariant.keeps.lawful i service member
      exact ⟨service, ((invariant.delivers.transit i).services_of_mem member).2,
        (lawful.unchanged refuses isConflict).2⟩
  case final => exact fun i result event w' ends step => result?_step ends step

/-- Of all submissions that run side by side, each sends one request at most and none is told that
it succeeded unless its own request did; and for each name in a namespace one at most is. -/
theorem submissions_at_most_once {held : List CreateRequest}
    (distinct : (held.map (·.key)).Nodup) (run : Run (World.start calls held) events w) :
    AtMostOnce calls events w :=
  (invariant_run distinct run).atMostOnce

/-! ## A race for a name -/

/-- A submission that others are in a race with. -/
def racing : Call := ⟨"jobs", ⟨⟨some "sync", none, none⟩, none⟩⟩

def racingRequest : CreateRequest := ⟨⟨"/api/v1/namespaces/jobs/pods", some ""⟩, racing.pod⟩

theorem createRequest_racing :
    createRequest racing.namespaceName racing.pod = .ok ("sync", racingRequest) := by
  have address : Address.pods? "jobs" = some racingRequest.address := by decide
  simp only [createRequest, racing, address]
  rfl

def podAnswer : String := "\x7b\"apiVersion\":\"v1\",\"kind\":\"Pod\"\x7d"

theorem tellsOfPod_podAnswer : tellsOfPod podAnswer = true := by decide +kernel

/-- Who sends first need not win, nor who hears first. -/
theorem race (accepting refusing : Reply) {error : RequestError}
    (accepts : accepting.outcome = .ok ()) (refuses : refusing.outcome = .error error)
    (isConflict : error.IsConflict) :
    ∃ events w, Run (World.start (fun _ : Bool => racing) []) events w ∧
      w.held = [racingRequest] ∧
      (w.client true).result? = some (submitted "sync" accepting) ∧
      (w.client false).result? = some (submitted "sync" refusing) := by
  have asks : Exchange.submission racing.namespaceName racing.pod =
      .ask racingRequest fun reply => .done (submitted "sync" reply) := by
    rw [Exchange.submission, submit, createRequest_racing]
    rfl
  have created : Service.Lawful ⟨racingRequest, accepting, [], [racingRequest]⟩ :=
    .created List.not_mem_nil accepts
  have conflict : Service.Lawful ⟨racingRequest, refusing, [racingRequest], [racingRequest]⟩ :=
    .conflict (List.mem_singleton_self _) refuses isConflict
  have sent : Run (World.start (fun _ : Bool => racing) []) _ _ :=
    (Run.start.step (.send (i := false) (congrArg _ asks))).step
      (.send (i := true) (congrArg _ asks))
  have served :=
    (sent.step (.serve [_] [] rfl rfl created)).step (.serve [] [] rfl rfl conflict)
  have heard := (served.step (.hear [_] [] rfl rfl)).step (.hear [] [] rfl rfl)
  exact ⟨_, _, heard, rfl, rfl, rfl⟩

/-- One of two submissions in a race succeeds, and the other one is told that the name is taken. -/
theorem submissions_at_most_once_race :
    (List.map CreateRequest.key []).Nodup ∧
      ∃ events w, Run (World.start (fun _ : Bool => racing) []) events w ∧
        (w.client true).result? = some (.ok "sync") ∧
        (w.client false).result? = some (.error (.alreadyExists "sync")) ∧
        (∃ service ∈ servicesFor true events, service.Stores) ∧
        ∃ service, servicesFor false events = [service] ∧ service.after = service.before := by
  have accepts : (Reply.answer 201 (String.toUTF8 podAnswer)).outcome = .ok () := by
    rw [Reply.outcome_text, if_neg (by decide), if_pos tellsOfPod_podAnswer]
  have refuses : (Reply.answer conflictCode (String.toUTF8 "name is taken")).outcome =
      .error (.refused (.ofAnswer conflictCode "name is taken")) := by
    have status : Status.inAnswer conflictCode "name is taken" =
        .ofAnswer conflictCode "name is taken" := by decide +kernel
    rw [Reply.outcome_text, if_pos (by decide), status]
  obtain ⟨events, w, run, -, won, lost⟩ := race _ _ accepts refuses ⟨_, rfl, rfl⟩
  rw [submitted_of_ok accepts] at won
  rw [submitted_of_conflict refuses ⟨_, rfl, rfl⟩] at lost
  have distinct : (List.map CreateRequest.key []).Nodup := List.nodup_nil
  have once := submissions_at_most_once distinct run
  obtain ⟨_, service, member, stores, _⟩ := once.succeeds true "sync" won
  exact ⟨distinct, events, w, run, won, lost, ⟨service, member, stores⟩,
    once.unchanged false "sync" lost⟩

end Runs

end SyncPods.Cluster
