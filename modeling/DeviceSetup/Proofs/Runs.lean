import DeviceSetup.App.Session

/-!
# Runs of the app

Two views of a run. In the first, any event may come at any time, also one that no
request asked for: `Model.before events n` is the model that event number `n` meets.
In the second, a session also keeps the requests it made, and the only events are
those of the shell and those that come of answering a request that still waits:
`Session.Run` relates a session to what it becomes, with the moves that were made and
everything that was issued on the way, oldest first.

A fact about every run is proved of the start and of one step, never of a run itself.
That a run exists is shown by playing its moves (`Run.play`).
-/

namespace DeviceSetup

/-- The event brings a schema that can be taken. Only such an event puts up a new form, and it ends
whatever was under way. -/
def Event.SetsUp (e : Event) : Prop :=
  ∃ settings format schema, e = .shell (.setUp settings format)
    ∧ Schema.ofText settings = .ok schema

theorem Event.not_setsUp {e : Event} (h : ∀ settings format, e ≠ .shell (.setUp settings format)) :
    ¬ e.SetsUp := by
  rintro ⟨settings, format, _, he, _⟩
  exact h settings format he

/-! ## Runs of the model -/

namespace Model

/-- The model after some events. -/
def after (events : List Event) : Model :=
  events.foldl (fun m e => (update m e).1) initial

/-- The model that event number `n` of a run meets. -/
def before (events : List Event) (n : Nat) : Model :=
  after (events.take n)

/-- One event further on. -/
theorem before_succ {events : List Event} {n : Nat} {e : Event} (h : events[n]? = some e) :
    before events (n + 1) = (update (before events n) e).1 := by
  unfold before after
  rw [List.take_add_one, h]
  simp [List.foldl_append]

theorem before_succ_of_none {events : List Event} {n : Nat} (h : events[n]? = none) :
    before events (n + 1) = before events n := by
  unfold before
  rw [List.take_add_one, h]
  simp

/-- What holds at the start and is kept by every event holds throughout a run. -/
theorem before_invariant {P : Model → Prop} (hinit : P initial)
    (hstep : ∀ m e, P m → P (update m e).1) (events : List Event) (n : Nat) :
    P (before events n) := by
  induction n with
  | zero => exact hinit
  | succ n ih =>
      cases he : events[n]? with
      | none => rw [before_succ_of_none he]; exact ih
      | some e => rw [before_succ he]; exact hstep _ e ih

/-- What holds at the start and is kept by every event holds at the end of a run. -/
theorem after_invariant {P : Model → Prop} (hinit : P initial)
    (hstep : ∀ m e, P m → P (update m e).1) (events : List Event) : P (after events) := by
  have h := before_invariant hinit hstep events events.length
  rwa [before, List.take_length] at h

end Model

/-! ## Runs of a session -/

namespace Session

/-- What may happen to a session. The shell may send its own events at any time; answers are given
by the number of the request they are to. -/
inductive Move where
  | shell (e : ShellEvent)
  | answerFetch (number : Nat) (outcome : Http.Outcome)
  | answerTimer (number : Nat) (output : TimerOutput)

/-- Makes a move; none if it answers a request that does not wait for an answer. -/
def move (s : Session) : Move → Option (Session × List Issued)
  | .shell e => some (s.send (.shell e))
  | .answerFetch number outcome => s.answerFetch number outcome
  | .answerTimer number output => s.answerTimer number output

/-- `Run s moves issued s'`: the moves lead from `s` to `s'` and issue `issued`. It grows at its
end, so that an induction has the whole past of the last move. -/
inductive Run (s : Session) : List Move → List Issued → Session → Prop where
  | init : Run s [] [] s
  | tail {moves : List Move} {issued : List Issued} {t u : Session} {mv : Move}
      {more : List Issued} :
      Run s moves issued t → t.move mv = some (u, more) →
      Run s (moves ++ [mv]) (issued ++ more) u

/-- Makes moves one after the other; none if one of them cannot be made. -/
def play (s : Session) : List Move → Option (Session × List Issued)
  | [] => some (s, [])
  | mv :: rest =>
    match s.move mv with
    | some (t, issued) => (t.play rest).map fun x => (x.1, issued ++ x.2)
    | none => none

/-- A run goes on with moves that can be made. -/
theorem Run.play {s t : Session} {done : List Move} {issued : List Issued}
    (h : Run s done issued t) {moves : List Move} {u : Session} {more : List Issued}
    (hplay : t.play moves = some (u, more)) : Run s (done ++ moves) (issued ++ more) u := by
  induction moves generalizing done issued t more with
  | nil =>
      obtain ⟨rfl, rfl⟩ := Prod.mk.inj (Option.some.inj hplay)
      rw [List.append_nil, List.append_nil]
      exact h
  | cons mv rest ih =>
      rw [Session.play] at hplay
      cases hmv : t.move mv with
      | none =>
          rw [hmv] at hplay
          cases hplay
      | some next =>
          rw [hmv] at hplay
          obtain ⟨x, hx, hu⟩ := Option.map_eq_some_iff.mp hplay
          obtain ⟨rfl, rfl⟩ := Prod.mk.inj hu
          have hrest := ih (h.tail hmv) hx
          rw [List.append_assoc, List.append_assoc] at hrest
          exact hrest

/-! ## Waiting requests -/

/-- A request waits if it is in the list and still marked so. -/
theorem unanswered?_eq_some {α : Type} {requests : List (Pending α)} {number : Nat}
    {request : α} :
    unanswered? requests number = some request ↔ requests[number]? = some ⟨request, true⟩ := by
  unfold unanswered?
  split
  · rename_i r hr
    rw [hr]; simp
  · rename_i hne
    constructor
    · intro h; simp at h
    · intro h; exact absurd h (hne _)

/-- Later requests do not answer earlier ones. -/
theorem unanswered?_append {α : Type} {requests : List (Pending α)} {number : Nat} {request : α}
    (h : unanswered? requests number = some request) (more : List (Pending α)) :
    unanswered? (requests ++ more) number = some request := by
  rw [unanswered?_eq_some] at h ⊢
  obtain ⟨hlt, _⟩ := List.getElem?_eq_some_iff.mp h
  rw [List.getElem?_append_left hlt]
  exact h

/-- An answer leaves the other requests as they are. -/
theorem unanswered?_markAnswered {α : Type} {requests : List (Pending α)} {number k : Nat}
    {request : α} :
    unanswered? (markAnswered requests k) number = some request
      ↔ number ≠ k ∧ unanswered? requests number = some request := by
  rw [unanswered?_eq_some, unanswered?_eq_some]
  unfold markAnswered
  rw [List.getElem?_modify]
  -- the request that is answered, or another one
  by_cases hk : k = number
  · subst hk
    constructor
    · intro h
      obtain ⟨r, _, hr⟩ := Option.map_eq_some_iff.mp h
      rw [if_pos rfl] at hr
      exact Bool.noConfusion (congrArg Pending.unanswered hr)
    · intro h; exact absurd rfl h.1
  · simp only [if_neg hk, id_map']
    exact ⟨fun h => ⟨fun h' => hk h'.symm, h⟩, fun h => h.2⟩

/-! ## Issuing effects -/

@[simp] theorem issue_model (s : Session) (effects : List Effect) :
    (s.issue effects).1.model = s.model := by
  induction effects generalizing s with
  | nil => rfl
  | cons e rest ih =>
      cases e with
      | render => simp [issue, ih]
      | fetch purpose request => simp [issue, ih, addFetch]
      | timer op => simp [issue, ih, addTimer]

/-- What is issued to the clock was an effect. -/
theorem mem_of_issued_timer {s : Session} {effects : List Effect} {number : Nat} {op : TimerOp}
    (h : Issued.timer number op ∈ (s.issue effects).2) : Effect.timer op ∈ effects := by
  induction effects generalizing s with
  | nil => simp [issue] at h
  | cons e rest ih =>
      cases e with
      | render =>
          simp only [issue, List.mem_cons, reduceCtorEq, false_or] at h
          exact List.mem_cons_of_mem _ (ih h)
      | fetch purpose request =>
          simp only [issue, List.mem_cons, reduceCtorEq, false_or] at h
          exact List.mem_cons_of_mem _ (ih h)
      | timer op' =>
          simp only [issue, List.mem_cons, Issued.timer.injEq] at h
          rcases h with ⟨_, rfl⟩ | h
          · exact List.mem_cons_self
          · exact List.mem_cons_of_mem _ (ih h)

/-- Issuing answers nothing. -/
theorem unanswered?_issue {s : Session} {number : Nat} {purpose : Purpose}
    (h : unanswered? s.fetches number = some purpose) (effects : List Effect) :
    unanswered? (s.issue effects).1.fetches number = some purpose := by
  induction effects generalizing s with
  | nil => exact h
  | cons e rest ih =>
      cases e with
      | render => exact ih h
      | fetch purpose' request => exact ih (unanswered?_append h _)
      | timer op => exact ih h

/-- A request to the device waits for its answer from then on. -/
theorem waits_of_mem {s : Session} {effects : List Effect} {purpose : Purpose}
    {request : Http.Request} (h : Effect.fetch purpose request ∈ effects) :
    ∃ number, unanswered? (s.issue effects).1.fetches number = some purpose := by
  induction effects generalizing s with
  | nil => simp at h
  | cons e rest ih =>
      rcases List.mem_cons.mp h with rfl | hrest
      · -- it gets the number that comes next, and what is issued behind it answers nothing
        refine ⟨s.fetches.length, unanswered?_issue (s := s.addFetch purpose) ?_ rest⟩
        rw [unanswered?_eq_some]
        simp [addFetch]
      · cases e with
        | render => exact ih hrest
        | fetch purpose' request' => exact ih hrest
        | timer op => exact ih hrest

/-- A request that waits after issuing waited before or was issued. -/
theorem waited_or_issued {s : Session} {effects : List Effect} {number : Nat} {purpose : Purpose}
    (h : unanswered? (s.issue effects).1.fetches number = some purpose) :
    unanswered? s.fetches number = some purpose
      ∨ ∃ request, Effect.fetch purpose request ∈ effects
          ∧ Issued.fetch number request ∈ (s.issue effects).2 := by
  induction effects generalizing s with
  | nil => exact Or.inl h
  | cons e rest ih =>
      cases e with
      | render =>
          rcases ih h with h' | ⟨request, h1, h2⟩
          · exact Or.inl h'
          · exact Or.inr ⟨request, List.mem_cons_of_mem _ h1, List.mem_cons_of_mem _ h2⟩
      | timer op =>
          rcases ih h with h' | ⟨request, h1, h2⟩
          · exact Or.inl h'
          · exact Or.inr ⟨request, List.mem_cons_of_mem _ h1, List.mem_cons_of_mem _ h2⟩
      | fetch purpose' request' =>
          rcases ih h with h' | ⟨request, h1, h2⟩
          · -- it waited before, or is the one that was just added at the end
            rw [unanswered?_eq_some] at h' ⊢
            simp only [addFetch] at h'
            rcases Nat.lt_trichotomy number s.fetches.length with hlt | heq | hgt
            · rw [List.getElem?_append_left hlt] at h'
              exact Or.inl h'
            · subst heq
              simp only [List.getElem?_append_right (Nat.le_refl _), Nat.sub_self,
                List.getElem?_cons_zero, Option.some.injEq, Pending.mk.injEq, and_true] at h'
              subst h'
              exact Or.inr ⟨request', List.mem_cons_self, List.mem_cons_self⟩
            · -- nothing has a number beyond the end
              have hnone := List.getElem?_eq_none
                (l := s.fetches
                  ++ [({ request := purpose', unanswered := true } : Pending Purpose)])
                (i := number) (by simp; omega)
              rw [hnone] at h'
              simp at h'
          · exact Or.inr ⟨request, List.mem_cons_of_mem _ h1, List.mem_cons_of_mem _ h2⟩

/-! ## Handling an event -/

@[simp] theorem send_model (s : Session) (e : Event) :
    (s.send e).1.model = (update s.model e).1 :=
  issue_model _ _

theorem unanswered?_send {s : Session} {number : Nat} {purpose : Purpose}
    (h : unanswered? s.fetches number = some purpose) (e : Event) :
    unanswered? (s.send e).1.fetches number = some purpose :=
  unanswered?_issue (s := { s with model := (update s.model e).1 }) h _

theorem waits_of_send {s : Session} {e : Event} {purpose : Purpose} {request : Http.Request}
    (h : Effect.fetch purpose request ∈ (update s.model e).2) :
    ∃ number, unanswered? (s.send e).1.fetches number = some purpose :=
  waits_of_mem h

/-- A request that waits after an event waited before, or came of the event. -/
theorem waited_or_sent {s : Session} {e : Event} {number : Nat} {purpose : Purpose}
    (h : unanswered? (s.send e).1.fetches number = some purpose) :
    unanswered? s.fetches number = some purpose
      ∨ ∃ request, Effect.fetch purpose request ∈ (update s.model e).2
          ∧ Issued.fetch number request ∈ (s.send e).2 :=
  waited_or_issued h

/-- What is issued to the clock came of the event. -/
theorem mem_of_sent_timer {s : Session} {e : Event} {number : Nat} {op : TimerOp}
    (h : Issued.timer number op ∈ (s.send e).2) : Effect.timer op ∈ (update s.model e).2 :=
  mem_of_issued_timer h

end Session

end DeviceSetup
