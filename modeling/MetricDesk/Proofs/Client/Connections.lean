import Mathlib.Data.List.DropRight
import MetricDesk.Client.Basic
import MetricDesk.Proofs.Failure

/-! The connections of a client over its life. Main statement: `connections_kept`, whatever a client
is asked and whatever becomes of it, one connection is open at a time, requests are sent on the open
one only and each connection is closed at most once; what a completion comes to is the reply without
the white space around it, and a reply of nothing else leaves the connection as it is. -/
namespace MetricDesk

namespace Text

/-- Where the white space around a text is taken away there is no more of it. -/
theorem trimmed_trimmed (cs : List Char) : trimmed (trimmed cs) = trimmed cs := by
  have front : (trimmed cs).dropWhile isBlank = trimmed cs := by
    have kept : trimmed cs <+: cs.dropWhile isBlank := List.rdropWhile_prefix isBlank _
    rw [List.dropWhile_eq_self_iff]
    intro some
    rw [List.IsPrefix.getElem kept some]
    exact List.dropWhile_get_zero_not isBlank cs _
  rw [trimmed, front]
  exact List.rdropWhile_idempotent isBlank _

theorem strip_strip (s : String) : strip (strip s) = strip s := by
  rw [strip, strip, String.toList_ofList, trimmed_trimmed]

end Text

namespace Client

/-- What callers do with a client. The library need not be the same each time. -/
inductive Call where
  | complete (library : Library) (purpose : Purpose) (prompt : String) (maxTokens : Value)
  | close

/-- The state behind a call. -/
def Call.left (c : Client) (s : State) : Call → State
  | .complete library purpose prompt maxTokens => (c.complete library purpose prompt maxTokens s).2
  | .close => c.close s

/-- The state behind calls one after another. -/
def after (c : Client) (calls : List Call) : State := calls.foldl (Call.left c) .initial

/-- A connection, with what was sent on it. -/
structure Connection where
  provider : Provider
  key : String
  requests : List Request

/-- What happens on a connection until it is closed. -/
def Connection.events (n : Connection) : List Event :=
  .opened n.provider n.key :: n.requests.map .sent

/-- A connection of a client: to its provider, with its key, and for no other's requests. -/
structure Connection.Of (c : Client) (n : Connection) : Prop where
  provider : c.provider = some n.provider
  key : n.key = c.key
  requests : ∀ r ∈ n.requests, r.provider = n.provider

/-- The connections of a client: those that are closed, in order, and the one that is open. -/
structure Life where
  past : List Connection
  current : Option Connection

/-- What happens on connections one after another, of which the past ones were closed in the end. -/
def Life.events (l : Life) : List Event :=
  l.past.flatMap (fun n => n.events ++ [.closed n.provider]) ++
    (l.current.map Connection.events).getD []

/-- A history is that of some connections of a client. -/
structure Life.Tells (c : Client) (l : Life) (history : List Event) : Prop where
  events : l.events = history
  past : ∀ n ∈ l.past, n.Of c
  current : ∀ n ∈ l.current, n.Of c
  /-- As many are opened as are closed, and one more if one is open. -/
  count : history.countP (· matches .opened ..) =
    history.countP (· matches .closed _) + l.current.isSome.toNat

/-- The provider replies to a completion with a text: there is a connection or one can be opened,
and what answers the request has this text. -/
def Replies (c : Client) (library : Library) (purpose : Purpose) (prompt : String)
    (maxTokens : Value) (s : State) (text : String) : Prop :=
  ∃ p connected reply, c.provider = some p ∧ c.enabled = true ∧
    connect library p c.key s = (.ok (), connected) ∧
    library.answer connected.events (c.request p purpose prompt maxTokens) = .ok reply ∧
    p.textOf reply = text

variable {c : Client}

/-! ### Completions -/

/-- What a completion comes to, and the state behind it. -/
inductive Completed (c : Client) (library : Library) (purpose : Purpose) (prompt : String)
    (maxTokens : Value) (s : State) : Except Failure String × State → Prop
  | disabled (need : Need) (off : c.enabled = false) :
    Completed c library purpose prompt maxTokens s (.error (.disabled need), s)
  | missing {p : Provider} (chosen : c.provider = some p) (on : c.enabled = true)
    (refused : connect library p c.key s = (.error (.packageMissing p.name), s)) :
    Completed c library purpose prompt maxTokens s (.error (.packageMissing p.name), s)
  | sent {p : Provider} {connected : State} (chosen : c.provider = some p) (on : c.enabled = true)
    (ready : connect library p c.key s = (.ok (), connected)) :
    Completed c library purpose prompt maxTokens s
      (match library.answer connected.events (c.request p purpose prompt maxTokens) with
        | .ok reply => answered purpose (p.textOf reply)
        | .error failure => .error failure,
        { connected with
          events := connected.events ++ [.sent (c.request p purpose prompt maxTokens)] })

/-- A connection is there already, or is opened, or cannot be. -/
theorem connect_cases (library : Library) (p : Provider) (key : String) (s : State) :
    (s.isOpen = true ∧ connect library p key s = (.ok (), s)) ∨
      (s.isOpen = false ∧
        connect library p key s = (.ok (), ⟨true, s.events ++ [.opened p key]⟩)) ∨
      connect library p key s = (.error (.packageMissing p.name), s) := by
  unfold connect
  cases s.isOpen with
  | true => exact Or.inl ⟨rfl, rfl⟩
  | false =>
    cases library.installed with
    | true => exact Or.inr (Or.inl ⟨rfl, rfl⟩)
    | false => exact Or.inr (Or.inr rfl)

theorem isOpen_of_connect {library : Library} {p : Provider} {key : String} {s connected : State}
    (ready : connect library p key s = (.ok (), connected)) : connected.isOpen = true := by
  rcases connect_cases library p key s with ⟨isOpen, found⟩ | ⟨-, found⟩ | found
  · cases found.symm.trans ready
    exact isOpen
  · cases found.symm.trans ready
    rfl
  · cases found.symm.trans ready

theorem complete_of_connect {library : Library} {purpose : Purpose} {prompt : String}
    {maxTokens : Value} {p : Provider} {s connected : State} (chosen : c.provider = some p)
    (on : c.enabled = true) (ready : connect library p c.key s = (.ok (), connected)) :
    c.complete library purpose prompt maxTokens s =
      (match library.answer connected.events (c.request p purpose prompt maxTokens) with
        | .ok reply => answered purpose (p.textOf reply)
        | .error failure => .error failure,
        { connected with
          events := connected.events ++ [.sent (c.request p purpose prompt maxTokens)] }) := by
  unfold complete
  rw [chosen]
  simp only [on, if_true, Dialogue.bind_apply, ready, send]
  cases library.answer connected.events (c.request p purpose prompt maxTokens) with
  | error failure => rfl
  | ok reply =>
    simp only
    cases answered purpose (p.textOf reply) <;> rfl

theorem completed (c : Client) (library : Library) (purpose : Purpose) (prompt : String)
    (maxTokens : Value) (s : State) :
    Completed c library purpose prompt maxTokens s
      (c.complete library purpose prompt maxTokens s) := by
  cases chosen : c.provider with
  | none =>
    unfold complete
    rw [chosen]
    exact .disabled .provider (by simp [enabled, key, chosen])
  | some p =>
  cases on : c.enabled with
  | false =>
    unfold complete
    rw [chosen]
    simp only [on, Bool.false_eq_true, if_false]
    exact .disabled (.key p.keyName) on
  | true =>
  rcases connect_cases library p c.key s with ⟨-, ready⟩ | ⟨-, ready⟩ | refused
  · rw [complete_of_connect chosen on ready]
    exact .sent chosen on ready
  · rw [complete_of_connect chosen on ready]
    exact .sent chosen on ready
  · have missing : c.complete library purpose prompt maxTokens s =
        (.error (.packageMissing p.name), s) := by
      unfold complete
      rw [chosen]
      simp only [on, if_true, Dialogue.bind_apply, refused]
    rw [missing]
    exact .missing chosen on refused

theorem answered_eq_ok_iff {purpose : Purpose} {reply text : String} :
    answered purpose reply = .ok text ↔ text = Text.strip reply ∧ text ≠ "" := by
  unfold answered
  by_cases blank : Text.strip reply = ""
  · simp [blank]
  · simp only [String.isEmpty_iff, blank, if_false, Except.ok.injEq]
    constructor
    · rintro rfl
      exact ⟨rfl, blank⟩
    · exact fun h => h.1.symm

/-- A completion returns exactly if it is replied to with more than white space. -/
theorem complete_eq_ok_iff {library : Library} {purpose : Purpose} {prompt : String}
    {maxTokens : Value} {s : State} {text : String} :
    (c.complete library purpose prompt maxTokens s).1 = .ok text ↔
      text ≠ "" ∧ ∃ reply, Replies c library purpose prompt maxTokens s reply ∧
        text = Text.strip reply := by
  constructor
  · intro told
    have done := completed c library purpose prompt maxTokens s
    generalize c.complete library purpose prompt maxTokens s = end? at told done
    cases done with
    | disabled need off => simp at told
    | missing chosen on refused => simp at told
    | sent chosen on ready =>
      dsimp only at told
      split at told
      · next reply answer =>
        obtain ⟨same, some⟩ := answered_eq_ok_iff.mp told
        exact ⟨some, _, ⟨_, _, reply, chosen, on, ready, answer, rfl⟩, same⟩
      · simp at told
  · rintro ⟨some, reply, ⟨p, connected, parts, chosen, on, ready, answer, rfl⟩, rfl⟩
    simp only [complete_of_connect chosen on ready, answer]
    exact answered_eq_ok_iff.mpr ⟨rfl, some⟩

theorem complete_of_blank {library : Library} {purpose : Purpose} {prompt : String}
    {maxTokens : Value} {s : State} {reply : String}
    (replies : Replies c library purpose prompt maxTokens s reply)
    (blank : Text.strip reply = "") :
    (c.complete library purpose prompt maxTokens s).1 = .error (.noResponse purpose.name) ∧
      (c.complete library purpose prompt maxTokens s).2.isOpen = true := by
  obtain ⟨p, connected, parts, chosen, on, ready, answer, rfl⟩ := replies
  have isOpen := isOpen_of_connect ready
  simp only [complete_of_connect chosen on ready, answer]
  refine ⟨?_, isOpen⟩
  rw [answered, blank]
  rfl

/-- Where a connection is open the next request is sent on it. -/
theorem complete_of_isOpen {s : State} (isOpen : s.isOpen = true) {p : Provider}
    (chosen : c.provider = some p) (on : c.enabled = true) (library : Library) (purpose : Purpose)
    (prompt : String) (maxTokens : Value) :
    (c.complete library purpose prompt maxTokens s).2 =
      ⟨true, s.events ++ [.sent (c.request p purpose prompt maxTokens)]⟩ := by
  have ready : connect library p c.key s = (.ok (), s) := by
    rw [connect, isOpen]
    rfl
  rw [complete_of_connect chosen on ready, isOpen]

/-! ### The course of events -/

/-- What has happened so far, event by event, and whether a connection is open. -/
inductive Course (c : Client) : State → Prop
  | fresh : Course c .initial
  | opened {p : Provider} {history : List Event} (idle : Course c ⟨false, history⟩)
    (chosen : c.provider = some p) (on : c.enabled = true) :
    Course c ⟨true, history ++ [.opened p c.key]⟩
  | sent {r : Request} {history : List Event} (ready : Course c ⟨true, history⟩)
    (chosen : c.provider = some r.provider) : Course c ⟨true, history ++ [.sent r]⟩
  | closed {p : Provider} {history : List Event} (ready : Course c ⟨true, history⟩)
    (chosen : c.provider = some p) : Course c ⟨false, history ++ [.closed p]⟩

theorem Course.connect {library : Library} {p : Provider} {s connected : State}
    (course : Course c s) (chosen : c.provider = some p) (on : c.enabled = true)
    (ready : connect library p c.key s = (.ok (), connected)) : Course c connected := by
  rcases connect_cases library p c.key s with ⟨-, found⟩ | ⟨idle, found⟩ | found
  · cases found.symm.trans ready
    exact course
  · cases found.symm.trans ready
    obtain ⟨isOpen, history⟩ := s
    cases idle
    exact .opened course chosen on
  · cases found.symm.trans ready

theorem Course.complete {s : State} (course : Course c s) (library : Library) (purpose : Purpose)
    (prompt : String) (maxTokens : Value) :
    Course c (c.complete library purpose prompt maxTokens s).2 := by
  have done := completed c library purpose prompt maxTokens s
  generalize c.complete library purpose prompt maxTokens s = end? at done
  cases done with
  | disabled need off => exact course
  | missing chosen on refused => exact course
  | @sent p connected chosen on ready =>
    have isOpen := isOpen_of_connect ready
    have course := course.connect chosen on ready
    obtain ⟨_, history⟩ := connected
    cases isOpen
    exact .sent course chosen

theorem Course.close {s : State} (course : Course c s) : Course c (c.close s) := by
  unfold Client.close
  cases chosen : c.provider with
  | none => exact course
  | some p =>
    obtain ⟨isOpen, history⟩ := s
    cases isOpen with
    | false => exact course
    | true => exact .closed course chosen

/-- By induction on the calls, from any state that is on course. -/
theorem course_after (c : Client) (calls : List Call) : Course c (c.after calls) := by
  suffices h : ∀ s, Course c s → Course c (calls.foldl (Call.left c) s) from h _ .fresh
  induction calls with
  | nil => exact fun s course => course
  | cons call calls ih =>
    intro s course
    rw [List.foldl_cons]
    apply ih
    cases call with
    | complete library purpose prompt maxTokens =>
      exact course.complete library purpose prompt maxTokens
    | close => exact course.close

/-- Every moment of a course was one. -/
theorem Course.moment {s : State} (course : Course c s) {moment : List Event}
    (early : moment <+: s.events) : ∃ isOpen, Course c ⟨isOpen, moment⟩ := by
  have behind {e : Event} {history : List Event} {isOpen : Bool}
      (whole : Course c ⟨isOpen, history ++ [e]⟩) (early : moment <+: history ++ [e])
      (before : moment <+: history → ∃ isOpen, Course c ⟨isOpen, moment⟩) :
      ∃ isOpen, Course c ⟨isOpen, moment⟩ := by
    rcases List.prefix_concat_iff.mp early with rfl | early
    · exact ⟨isOpen, by simpa using whole⟩
    · exact before early
  induction course with
  | fresh =>
    rw [List.prefix_nil.mp early]
    exact ⟨false, .fresh⟩
  | opened idle chosen on ih => exact behind (.opened idle chosen on) early ih
  | sent ready chosen ih => exact behind (.sent ready chosen) early ih
  | closed ready chosen ih => exact behind (.closed ready chosen) early ih

theorem Course.disabled {s : State} (course : Course c s) (off : c.enabled = false) :
    s = .initial := by
  induction course with
  | fresh => rfl
  | opened idle chosen on ih => cases off.symm.trans on
  | sent ready chosen ih => cases ih
  | closed ready chosen ih => cases ih

/-- What happens is what happens on connections one after another. -/
theorem Course.exists_life {s : State} (course : Course c s) :
    ∃ l : Life, l.Tells c s.events ∧ l.current.isSome = s.isOpen := by
  induction course with
  | fresh => exact ⟨⟨[], none⟩, ⟨rfl, nofun, nofun, rfl⟩, rfl⟩
  | @opened p history idle chosen on ih =>
    obtain ⟨⟨past, _ | n⟩, ⟨rfl, ended, own, count⟩, shut⟩ := ih
    · refine ⟨⟨past, some ⟨p, c.key, []⟩⟩, ⟨?_, ended, ?_, ?_⟩, rfl⟩
      · simp [Life.events, Connection.events]
      · rintro n ⟨⟩
        exact ⟨chosen, rfl, nofun⟩
      · simp only [List.countP_append, count]
        rfl
    · cases shut
  | @sent r history ready chosen ih =>
    obtain ⟨⟨past, _ | n⟩, ⟨rfl, ended, own, count⟩, there⟩ := ih
    · cases there
    · have own := own n rfl
      have same : r.provider = n.provider := Option.some.inj (chosen.symm.trans own.provider)
      refine ⟨⟨past, some { n with requests := n.requests ++ [r] }⟩, ⟨?_, ended, ?_, ?_⟩, rfl⟩
      · simp [Life.events, Connection.events]
      · rintro n' ⟨⟩
        refine ⟨own.provider, own.key, fun q mem => ?_⟩
        rcases List.mem_append.mp mem with mem | mem
        · exact own.requests q mem
        · rw [List.mem_singleton.mp mem, same]
      · simp only [List.countP_append, count]
        rfl
  | @closed p history ready chosen ih =>
    obtain ⟨⟨past, _ | n⟩, ⟨rfl, ended, own, count⟩, there⟩ := ih
    · cases there
    · have own := own n rfl
      have same : p = n.provider := Option.some.inj (chosen.symm.trans own.provider)
      refine ⟨⟨past ++ [n], none⟩, ⟨?_, ?_, nofun, ?_⟩, rfl⟩
      · simp [Life.events, same]
      · intro m mem
        rcases List.mem_append.mp mem with mem | mem
        · exact ended m mem
        · exact List.mem_singleton.mp mem ▸ own
      · simp only [List.countP_append, count]
        rfl

/-- What callers may expect of a completion in a state. -/
structure Expected (c : Client) (s : State) (library : Library) (purpose : Purpose)
    (prompt : String) (maxTokens : Value) : Prop where
  /-- It returns what is left of the reply without the white space around it, if something is. -/
  told : ∀ text, (c.complete library purpose prompt maxTokens s).1 = .ok text ↔
    text ≠ "" ∧ ∃ reply, Replies c library purpose prompt maxTokens s reply ∧
      text = Text.strip reply
  stripped : ∀ text, (c.complete library purpose prompt maxTokens s).1 = .ok text →
    Text.strip text = text
  /-- If nothing is, it says so. -/
  blank : ∀ reply, Replies c library purpose prompt maxTokens s reply → Text.strip reply = "" →
    (c.complete library purpose prompt maxTokens s).1 = .error (.noResponse purpose.name)
  /-- The connection is open then, and the next request is sent on it. -/
  usable : ∀ reply, Replies c library purpose prompt maxTokens s reply → Text.strip reply = "" →
    (c.complete library purpose prompt maxTokens s).2.isOpen = true ∧
      ∀ p, c.provider = some p → ∀ library' purpose' prompt' maxTokens',
        (c.complete library' purpose' prompt' maxTokens'
          (c.complete library purpose prompt maxTokens s).2).2 =
            ⟨true, (c.complete library purpose prompt maxTokens s).2.events ++
              [.sent (c.request p purpose' prompt' maxTokens')]⟩

theorem expected (c : Client) (s : State) (library : Library) (purpose : Purpose)
    (prompt : String) (maxTokens : Value) : Expected c s library purpose prompt maxTokens where
  told text := complete_eq_ok_iff
  stripped text returned := by
    obtain ⟨-, reply, -, rfl⟩ := complete_eq_ok_iff.mp returned
    exact Text.strip_strip reply
  blank reply replies blank := (complete_of_blank replies blank).1
  usable reply replies blank := by
    have isOpen := (complete_of_blank replies blank).2
    obtain ⟨-, -, -, -, on, -⟩ := replies
    exact ⟨isOpen, fun p chosen => complete_of_isOpen isOpen chosen on⟩

/-- Without a key a completion says what is missing, and nothing happens. -/
theorem complete_of_disabled (off : c.enabled = false) (library : Library) (purpose : Purpose)
    (prompt : String) (maxTokens : Value) (s : State) :
    ∃ need, c.complete library purpose prompt maxTokens s = (.error (.disabled need), s) := by
  have done := completed c library purpose prompt maxTokens s
  generalize c.complete library purpose prompt maxTokens s = end? at done
  cases done with
  | disabled need off => exact ⟨need, rfl⟩
  | missing chosen on refused => cases off.symm.trans on
  | sent chosen on ready => cases off.symm.trans on

/-- Whatever a client is asked, at every moment what has happened is what happened on connections
one after another, of which at most the last is open. Without a key nothing happens and nothing is
answered. Every completion is as expected. -/
theorem connections_kept (c : Client) (calls : List Call) :
    (∀ moment, moment <+: (c.after calls).events → ∃ l : Life, l.Tells c moment) ∧
      (∃ l : Life, l.Tells c (c.after calls).events ∧
        l.current.isSome = (c.after calls).isOpen) ∧
      (c.enabled = false → (c.after calls).events = [] ∧
        ∀ library purpose prompt maxTokens, ∃ failure,
          c.complete library purpose prompt maxTokens (c.after calls) =
            (.error failure, c.after calls) ∧ failure.kind = .capabilityDisabled) ∧
      ∀ library purpose prompt maxTokens,
        Expected c (c.after calls) library purpose prompt maxTokens := by
  have course := course_after c calls
  refine ⟨?_, course.exists_life, ?_, expected c (c.after calls)⟩
  · intro moment early
    obtain ⟨isOpen, course⟩ := course.moment early
    obtain ⟨l, tells, -⟩ := course.exists_life
    exact ⟨l, tells⟩
  · intro off
    refine ⟨by rw [course.disabled off]; rfl, fun library purpose prompt maxTokens => ?_⟩
    obtain ⟨need, refused⟩ := complete_of_disabled off library purpose prompt maxTokens _
    exact ⟨_, refused, rfl⟩

/-- A library whose first reply is white space, and whose other replies are not. -/
def hesitant : Library where
  installed := true
  answer history _ := .ok [some (if history.length < 2 then " \n" else " 700 ")]

/-- A client with a key. -/
def keyed : Client := ⟨some .openai, { Settings.default with openaiKey := "key" }⟩

/-- White space is no answer, and the next request gets one on the same connection, also where no
other could be opened. -/
theorem hesitant_kept :
    let first := keyed.complete hesitant .narrator "Tell." (.int 220) (keyed.after [])
    let second := keyed.complete { hesitant with installed := false } .narrator "Tell." (.int 220)
      first.2
    first.1 = .error (.noResponse "narrator") ∧ first.2.isOpen = true ∧ second.1 = .ok "700" := by
  intro first second
  obtain ⟨-, -, -, now⟩ := connections_kept keyed []
  obtain ⟨-, -, -, next⟩ := connections_kept keyed
    [.complete hesitant .narrator "Tell." (.int 220)]
  have now := now hesitant .narrator "Tell." (.int 220)
  have blank : Replies keyed hesitant .narrator "Tell." (.int 220) (keyed.after []) " \n" :=
    ⟨.openai, ⟨true, [.opened .openai "key"]⟩, _, rfl, rfl, rfl, rfl, rfl⟩
  have white : Text.strip " \n" = "" := by decide +kernel
  refine ⟨now.blank _ blank white, (now.usable _ blank white).1, ?_⟩
  refine ((next { hesitant with installed := false } .narrator "Tell." (.int 220)).told _).mpr
    ⟨by decide, " 700 ", ?_, by decide +kernel⟩
  exact ⟨.openai, first.2, _, rfl, rfl, rfl, rfl, rfl⟩

end Client
end MetricDesk
