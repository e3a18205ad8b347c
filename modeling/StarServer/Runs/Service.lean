/-
  StarServer.Runs.Service — a service to one client that does one request at a time, and runs
  that refine another machine's.

  The requests wait in the order they were made. The service takes one, messages are queued for
  the client, and the answer to the request carries away what is queued; the next request is
  taken after that. Messages may be queued at any time.

  Proved:
    * `serve_account`: in any run no request and no message is lost, doubled or overtaken;
    * `run_refines`: where each step is some steps of another machine, a run is a run of it.
-/

import StarServer.Runs.Steps

namespace StarServer.Runs

variable {ρ μ : Type}

structure Service (ρ μ : Type) where
  waiting : List ρ
  current : Option ρ
  queued : List μ
  /-- Each request answered, with the messages its answer carried. -/
  answered : List (ρ × List μ)

inductive Act (ρ μ : Type) where
  | take (r : ρ)
  | queue (m : μ)
  | answer

/-- `take` names the request, which is the first that waits. -/
def serve [DecidableEq ρ] (w : Service ρ μ) : Act ρ μ → Option (Service ρ μ)
  | .take r =>
    match w.current, w.waiting with
    | none, x :: rest => if x = r then some { w with waiting := rest, current := some r } else none
    | _, _ => none
  | .queue m => some { w with queued := w.queued ++ [m] }
  | .answer =>
    w.current.map fun r => { w with current := none, queued := [], answered := w.answered ++ [(r, w.queued)] }

/-- Nothing taken yet and nothing queued. -/
def Service.start (rs : List ρ) : Service ρ μ := ⟨rs, none, [], []⟩

/-- The requests taken, the one at work last. -/
def Service.taken (w : Service ρ μ) : List ρ := w.answered.map Prod.fst ++ w.current.toList

/-- The messages queued so far, sent with an answer or not. -/
def Service.messages (w : Service ρ μ) : List μ := (w.answered.map Prod.snd).flatten ++ w.queued

def Act.message : Act ρ μ → Option μ
  | .queue m => some m
  | _ => none

section Serve

variable [DecidableEq ρ] {w w' : Service ρ μ}

theorem serve_take {r : ρ} {rest : List ρ} (hcur : w.current = none) (hwait : w.waiting = r :: rest) :
    serve w (.take r) = some { w with waiting := rest, current := some r } := by
  simp [serve, hcur, hwait]

/-- **One act**: a request moves on, a message is put behind the others. -/
theorem serve_moves {a : Act ρ μ} (h : serve w a = some w') :
    w'.taken ++ w'.waiting = w.taken ++ w.waiting ∧ w'.messages = w.messages ++ a.message.toList := by
  cases a with
  | take r =>
    simp only [serve] at h
    split at h
    · rename_i x rest hcur hwait
      split at h
      · rename_i hx
        cases h
        subst hx
        refine ⟨?_, (List.append_nil _).symm⟩
        simp only [Service.taken, hcur, hwait, Option.toList_some, Option.toList_none, List.append_nil, List.append_assoc,
          List.singleton_append]
      · cases h
    · cases h
  | queue m =>
    cases h
    exact ⟨rfl, (List.append_assoc _ _ _).symm⟩
  | answer =>
    obtain ⟨r, hcur, rfl⟩ := Option.map_eq_some_iff.mp h
    constructor
    · simp [Service.taken, hcur]
    · simp [Service.messages, Act.message]

/-- **Nothing is lost, doubled or overtaken**: the requests taken are the first of those made, and
    the answers and the queue hold the messages queued, in order. -/
theorem serve_account {acts : List (Act ρ μ)} (h : run serve w acts = some w') :
    w'.taken ++ w'.waiting = w.taken ++ w.waiting ∧ w'.messages = w.messages ++ acts.filterMap Act.message := by
  induction acts generalizing w with
  | nil =>
    cases h
    exact ⟨rfl, (List.append_nil _).symm⟩
  | cons a acts ih =>
    obtain ⟨m, ha, h⟩ := (run_cons serve).mp h
    obtain ⟨htaken, hmessages⟩ := serve_moves ha
    obtain ⟨hrest, hmore⟩ := ih h
    refine ⟨hrest.trans htaken, ?_⟩
    rw [hmore, hmessages, List.append_assoc]
    cases hmsg : a.message with
    | none => rw [List.filterMap_cons_none hmsg]; rfl
    | some x => rw [List.filterMap_cons_some hmsg]; rfl

end Serve

/-! ## Refinement -/

variable {σ τ ε δ : Type} (step : σ → ε → Option σ) (acts : ε → σ → List δ)

/-- What a run's steps are to the other machine; `acts` is given the state after the step. -/
def trace : σ → List ε → List δ
  | _, [] => []
  | s, e :: es =>
    match step s e with
    | none => []
    | some s' => acts e s' ++ trace s' es

theorem trace_cons {s s' : σ} {e : ε} (h : step s e = some s') (es : List ε) :
    trace step acts s (e :: es) = acts e s' ++ trace step acts s' es := by
  simp only [trace, h]

variable {step acts}

/-- **A run is a run of the other machine** where each step is some of its steps. -/
theorem run_refines {step' : τ → δ → Option τ} {R : σ → τ → Prop} (Ok : σ → ε → Prop)
    (hstep : ∀ s t e s', R s t → Ok s e → step s e = some s' → ∃ t', run step' t (acts e s') = some t' ∧ R s' t') {s s' : σ}
    {t : τ} {es : List ε} (hs : R s t) (hok : RunOk step Ok s es) (h : run step s es = some s') :
    ∃ t', run step' t (trace step acts s es) = some t' ∧ R s' t' := by
  induction es generalizing s t with
  | nil =>
    simp only [run, Option.some.injEq] at h
    exact ⟨t, rfl, h ▸ hs⟩
  | cons e es ih =>
    obtain ⟨m, he, h⟩ := (run_cons step).mp h
    obtain ⟨u, hu, hmu⟩ := hstep s t e m hs hok.1 he
    obtain ⟨t', ht', hr⟩ := ih hmu (hok.2 m he) h
    refine ⟨t', ?_, hr⟩
    rw [trace_cons step acts he]
    exact (run_append step').mpr ⟨u, hu, ht'⟩

/-- What is read off the acts can be read off the events. -/
theorem trace_filterMap {α : Type} {f : δ → Option α} {g : ε → Option α}
    (hfg : ∀ e s', (acts e s').filterMap f = (g e).toList) {s s' : σ} {es : List ε} (h : run step s es = some s') :
    (trace step acts s es).filterMap f = es.filterMap g := by
  induction es generalizing s with
  | nil => rfl
  | cons e es ih =>
    obtain ⟨m, he, h⟩ := (run_cons step).mp h
    rw [trace_cons step acts he, List.filterMap_append, hfg, ih h]
    cases hg : g e with
    | none => rw [List.filterMap_cons_none hg]; rfl
    | some x => rw [List.filterMap_cons_some hg]; rfl

end StarServer.Runs
