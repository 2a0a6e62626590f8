import Mathlib.Data.Set.Basic
import Mathlib.Tactic.Common

/-!
# Client programs that may be abandoned

A small program logic for a client that owns some state and talks to a server by
requests, one at a time, each awaited. Three things can happen at a request: the
server answers and the client goes on, the client stops waiting before the server
has seen the request, or it stops waiting after the server has acted on it. In
the last two cases the rest of the program never runs, but what it wrote to the
client state before stays written.

* `Client.Prog` – programs: return, read the state, write the state, call.
* `Client.Attempt` – programs that return a value or an error.
* `Client.run` – what a program does against a server, for a given script of
  what happens at each call. Everything is a function of the script, so a
  behaviour is a value and a test evaluates it.
* `Client.wp` – the weakest precondition for two postconditions, one for a
  program that returns and one for a program that is abandoned.
* `Client.wp_iff_run` – the two agree: the precondition holds exactly when every
  behaviour meets its postcondition. Programs are verified by computing `wp`,
  and composed with `Client.wp_bind`.
* `Client.Keeps` – an assertion that a program keeps, however it ends; it is proved
  request by request.
* `Client.exec` – what a program does that is never abandoned.
-/

namespace Client

variable {σ τ Req Ω S α β : Type} {Ans : Req → Type}

/-- A program of a client with state `σ` that sends requests `Req`; a request `r`
is answered by an `Ans r`. -/
inductive Prog (σ Req : Type) (Ans : Req → Type) (α : Type) where
  /-- The program returns. -/
  | done (a : α)
  /-- The program reads its state. -/
  | get (k : σ → Prog σ Req Ans α)
  /-- The program writes its state. -/
  | put (s : σ) (k : Prog σ Req Ans α)
  /-- The program sends a request and awaits the answer. -/
  | call (r : Req) (k : Ans r → Prog σ Req Ans α)

namespace Prog

/-- Sequencing: the second program starts from what the first returned. -/
def bind : Prog σ Req Ans α → (α → Prog σ Req Ans β) → Prog σ Req Ans β
  | done a, f => f a
  | get k, f => get fun s => (k s).bind f
  | put s k, f => put s (k.bind f)
  | call r k, f => call r fun a => (k a).bind f

instance : Monad (Prog σ Req Ans) where
  pure := done
  bind := bind

/-- Send one request and return its answer. -/
def ask (r : Req) : Prog σ Req Ans (Ans r) := call r done

/-- Return the state. -/
def read : Prog σ Req Ans σ := get done

/-- Replace the state by a function of itself. -/
def modify (f : σ → σ) : Prog σ Req Ans Unit := get fun s => put (f s) (done ())

/-- Run a program on a part of a larger state: `t` is the current value of the
part, and `write` stores a new one. -/
def onPart (write : τ → σ → σ) : τ → Prog τ Req Ans α → Prog σ Req Ans α
  | _, done a => done a
  | t, get k => onPart write t (k t)
  | _, put t k => get fun s => put (write t s) (onPart write t k)
  | t, call r k => call r fun a => onPart write t (k a)

@[simp] theorem pure_eq (a : α) : (pure a : Prog σ Req Ans α) = done a := rfl

@[simp] theorem bind_eq (p : Prog σ Req Ans α) (f : α → Prog σ Req Ans β) :
    p >>= f = p.bind f := rfl

@[simp] theorem ask_bind (r : Req) (f : Ans r → Prog σ Req Ans β) :
    (ask r).bind f = call r f := rfl

@[simp] theorem read_bind (f : σ → Prog σ Req Ans β) : read.bind f = get f := rfl

@[simp] theorem modify_bind (g : σ → σ) (f : Unit → Prog σ Req Ans β) :
    (modify g).bind f = get fun s => put (g s) (f ()) := rfl

@[simp] theorem get_bind (k : σ → Prog σ Req Ans α) (f : α → Prog σ Req Ans β) :
    (get k).bind f = get fun s => (k s).bind f := rfl

@[simp] theorem put_bind (s : σ) (k : Prog σ Req Ans α) (f : α → Prog σ Req Ans β) :
    (put s k).bind f = put s (k.bind f) := rfl

@[simp] theorem call_bind (r : Req) (k : Ans r → Prog σ Req Ans α) (f : α → Prog σ Req Ans β) :
    (call r k).bind f = call r fun a => (k a).bind f := rfl

theorem bind_done (p : Prog σ Req Ans α) : p.bind done = p := by
  induction p with
  | done a => rfl
  | get k ih => exact congrArg get (funext ih)
  | put s k ih => exact congrArg (put s) ih
  | call r k ih => exact congrArg (call r) (funext ih)

theorem bind_bind {γ : Type} (p : Prog σ Req Ans α) (f : α → Prog σ Req Ans β)
    (g : β → Prog σ Req Ans γ) : (p.bind f).bind g = p.bind fun a => (f a).bind g := by
  induction p with
  | done a => rfl
  | get k ih => exact congrArg get (funext ih)
  | put s k ih => exact congrArg (put s) ih
  | call r k ih => exact congrArg (call r) (funext ih)

instance : LawfulMonad (Prog σ Req Ans) :=
  .mk' (m := Prog σ Req Ans) (fun p => bind_done p) (fun _ _ => rfl) (fun p f g => bind_bind p f g)

/-- Run a program on a state of its own; the last state is returned as well. -/
def isolate : τ → Prog τ Req Ans α → Prog σ Req Ans (α × τ)
  | t, done a => done (a, t)
  | t, get k => isolate t (k t)
  | _, put t k => isolate t k
  | t, call r k => call r fun a => isolate t (k a)

end Prog

/-! ### Programs that may fail -/

/-- A program that returns a value or an error. -/
abbrev Attempt (σ Req : Type) (Ans : Req → Type) (ε α : Type) := ExceptT ε (Prog σ Req Ans) α

namespace Attempt

variable {ε : Type}

/-- Return the result of a computation. -/
def of (r : Except ε α) : Attempt σ Req Ans ε α := ExceptT.mk (.done r)

/-- Return the state. -/
def read : Attempt σ Req Ans ε σ := ExceptT.mk (.get fun s => .done (.ok s))

/-- Replace the state. -/
def write (s : σ) : Attempt σ Req Ans ε Unit := ExceptT.mk (.put s (.done (.ok ())))

/-- Send one request, and return what the answer amounts to. -/
def ask (r : Req) (f : Ans r → Except ε α) : Attempt σ Req Ans ε α :=
  ExceptT.mk (.call r fun a => .done (f a))

@[simp] theorem run_pure (a : α) : (pure a : Attempt σ Req Ans ε α).run = .done (.ok a) := rfl

@[simp] theorem run_of (r : Except ε α) : (of r : Attempt σ Req Ans ε α).run = .done r := rfl

@[simp] theorem run_read_bind (f : σ → Attempt σ Req Ans ε β) :
    (read >>= f).run = .get fun s => (f s).run := rfl

@[simp] theorem run_write (s : σ) : (write s : Attempt σ Req Ans ε Unit).run =
    .put s (.done (.ok ())) := rfl

@[simp] theorem run_write_bind (s : σ) (f : Unit → Attempt σ Req Ans ε β) :
    (write s >>= f).run = .put s (f ()).run := rfl

@[simp] theorem run_of_ok_bind (a : α) (f : α → Attempt σ Req Ans ε β) :
    (of (.ok a) >>= f).run = (f a).run := rfl

@[simp] theorem run_of_error_bind (e : ε) (f : α → Attempt σ Req Ans ε β) :
    (of (.error e) >>= f).run = .done (.error e) := rfl

@[simp] theorem run_ask (r : Req) (g : Ans r → Except ε α) :
    (ask r g : Attempt σ Req Ans ε α).run = .call r fun a => .done (g a) := rfl

@[simp] theorem run_ask_bind (r : Req) (g : Ans r → Except ε α) (f : α → Attempt σ Req Ans ε β) :
    (ask r g >>= f).run = .call r fun a => (of (g a) >>= f).run := rfl

end Attempt

/-! ### Behaviours -/

/-- A server: what it answers and what it becomes, for each request and each
choice `Ω` of the environment. -/
structure Server (S Req : Type) (Ans : Req → Type) (Ω : Type) where
  /-- One request, treated in one of the ways the environment may choose. -/
  step : S → (r : Req) → Ω → Ans r × S

/-- How a program ended. -/
inductive Outcome (α : Type) where
  /-- It returned a value. -/
  | returned (a : α)
  /-- It was dropped while it awaited an answer. -/
  | abandoned
  deriving DecidableEq

/-- What happens at the calls of one program: the choices for the calls that are
answered, and the choice for the call at which the client stops waiting – `none`
when the server never sees that request. -/
structure Script (Ω : Type) where
  /-- The choices for the calls that are answered, in order. -/
  answers : List Ω
  /-- What the server makes of the request that the client abandons. -/
  cut : Option Ω

/-- What a program does from a client state and a server state. -/
def run (srv : Server S Req Ans Ω) :
    Prog σ Req Ans α → Script Ω → σ → S → Outcome α × σ × S
  | .done a, _, s, t => (.returned a, s, t)
  | .get k, sc, s, t => run srv (k s) sc s t
  | .put s' k, sc, _, t => run srv k sc s' t
  | .call r k, ⟨w :: ws, c⟩, s, t =>
    let (a, t') := srv.step t r w
    run srv (k a) ⟨ws, c⟩ s t'
  | .call r _, ⟨[], some w⟩, s, t => (.abandoned, s, (srv.step t r w).2)
  | .call _ _, ⟨[], none⟩, s, t => (.abandoned, s, t)

section Run

variable {srv : Server S Req Ans Ω} {s : σ} {t : S} {sc : Script Ω}

@[simp] theorem run_done (a : α) :
    run srv (.done a : Prog σ Req Ans α) sc s t = (.returned a, s, t) := rfl

@[simp] theorem run_put (s' : σ) (k : Prog σ Req Ans α) :
    run srv (.put s' k) sc s t = run srv k sc s' t := rfl

theorem run_call_cons (r : Req) (k : Ans r → Prog σ Req Ans α) (w : Ω) (ws : List Ω)
    (c : Option Ω) : run srv (.call r k) ⟨w :: ws, c⟩ s t =
      run srv (k (srv.step t r w).1) ⟨ws, c⟩ s (srv.step t r w).2 := rfl

theorem run_call_cut (r : Req) (k : Ans r → Prog σ Req Ans α) (w : Ω) :
    run srv (.call r k) ⟨[], some w⟩ s t = (.abandoned, s, (srv.step t r w).2) := rfl

theorem run_call_none (r : Req) (k : Ans r → Prog σ Req Ans α) :
    run srv (.call r k) ⟨[], none⟩ s t = (.abandoned, s, t) := rfl

end Run

/-! ### Weakest preconditions -/

/-- What must hold of the two states so that the program, if it returns, ends in
`post`, and if it is abandoned, ends in `drop`. Only environment choices in
`allowed` count. -/
def wp (srv : Server S Req Ans Ω) (allowed : Set Ω) :
    Prog σ Req Ans α → (α → σ → S → Prop) → (σ → S → Prop) → σ → S → Prop
  | .done a, post, _, s, t => post a s t
  | .get k, post, drop, s, t => wp srv allowed (k s) post drop s t
  | .put s' k, post, drop, _, t => wp srv allowed k post drop s' t
  | .call r k, post, drop, s, t => drop s t ∧ ∀ w ∈ allowed,
      drop s (srv.step t r w).2 ∧
        wp srv allowed (k (srv.step t r w).1) post drop s (srv.step t r w).2

section Rules

variable {srv : Server S Req Ans Ω} {allowed : Set Ω}

@[simp] theorem wp_done {a : α} {post : α → σ → S → Prop} {drop : σ → S → Prop} {s : σ} {t : S} :
    wp srv allowed (.done a : Prog σ Req Ans α) post drop s t ↔ post a s t := Iff.rfl

@[simp] theorem wp_get {k : σ → Prog σ Req Ans α} {post : α → σ → S → Prop}
    {drop : σ → S → Prop} {s : σ} {t : S} :
    wp srv allowed (.get k) post drop s t ↔ wp srv allowed (k s) post drop s t := Iff.rfl

@[simp] theorem wp_put {s' : σ} {k : Prog σ Req Ans α} {post : α → σ → S → Prop}
    {drop : σ → S → Prop} {s : σ} {t : S} :
    wp srv allowed (.put s' k) post drop s t ↔ wp srv allowed k post drop s' t := Iff.rfl

theorem wp_call {r : Req} {k : Ans r → Prog σ Req Ans α} {post : α → σ → S → Prop}
    {drop : σ → S → Prop} {s : σ} {t : S} :
    wp srv allowed (.call r k) post drop s t ↔ drop s t ∧ ∀ w ∈ allowed,
      drop s (srv.step t r w).2 ∧
        wp srv allowed (k (srv.step t r w).1) post drop s (srv.step t r w).2 := Iff.rfl

/-- **The rule of sequencing**: the postcondition of the first program is the
precondition of the second. -/
theorem wp_bind {p : Prog σ Req Ans α} {f : α → Prog σ Req Ans β} {post : β → σ → S → Prop}
    {drop : σ → S → Prop} {s : σ} {t : S} :
    wp srv allowed (p.bind f) post drop s t ↔
      wp srv allowed p (fun a => wp srv allowed (f a) post drop) drop s t := by
  induction p generalizing s t with
  | done a => rfl
  | get k ih => exact ih s
  | put s' k ih => exact ih
  | call r k ih =>
    rw [Prog.call_bind, wp_call, wp_call]
    exact and_congr_right fun _ => forall₂_congr fun w _ => and_congr_right fun _ => ih _

/-- **The rule of consequence.** -/
theorem wp_mono {p : Prog σ Req Ans α} {post post' : α → σ → S → Prop}
    {drop drop' : σ → S → Prop} (hpost : ∀ a s t, post a s t → post' a s t)
    (hdrop : ∀ s t, drop s t → drop' s t) {s : σ} {t : S}
    (h : wp srv allowed p post drop s t) : wp srv allowed p post' drop' s t := by
  induction p generalizing s t with
  | done a => exact hpost a s t h
  | get k ih => exact ih s h
  | put s' k ih => exact ih h
  | call r k ih =>
    exact ⟨hdrop s t h.1, fun w hw => ⟨hdrop s _ (h.2 w hw).1, ih _ (h.2 w hw).2⟩⟩

/-- **A program on a part of the state** is verified on the part alone, the rest
of the state being a parameter of the postconditions. -/
theorem wp_onPart {write : τ → σ → σ}
    (hww : ∀ t₁ t₂ s, write t₂ (write t₁ s) = write t₂ s) {p : Prog τ Req Ans α}
    {post : α → σ → S → Prop} {drop : σ → S → Prop} {t : τ} {s : σ} {u : S} :
    wp srv allowed (p.onPart write t) post drop (write t s) u ↔
      wp srv allowed p (fun a t' => post a (write t' s)) (fun t' => drop (write t' s)) t u := by
  induction p generalizing t u with
  | done a => rfl
  | get k ih => exact ih t
  | put t' k ih =>
    rw [Prog.onPart, wp_get, wp_put, wp_put, hww]
    exact ih
  | call r k ih =>
    rw [Prog.onPart, wp_call, wp_call]
    exact and_congr_right fun _ => forall₂_congr fun w _ => and_congr_right fun _ => ih _

/-- **A program on a state of its own** is verified on that state, the other one staying as it
is. -/
theorem wp_isolate {p : Prog τ Req Ans α} {post : α × τ → σ → S → Prop} {drop : σ → S → Prop}
    {t : τ} {s : σ} {u : S} :
    wp srv allowed (Prog.isolate t p) post drop s u ↔
      wp srv allowed p (fun a t' => post (a, t') s) (fun _ => drop s) t u := by
  induction p generalizing t u with
  | done a => rfl
  | get k ih => exact ih t
  | put t' k ih => exact ih
  | call r k ih =>
    rw [Prog.isolate, wp_call, wp_call]
    exact and_congr_right fun _ => forall₂_congr fun w _ => and_congr_right fun _ => ih _

/-- **The rule of sequencing** for programs that may fail: after an error nothing
follows. -/
theorem wp_attempt_bind {ε : Type} {p : Attempt σ Req Ans ε α} {f : α → Attempt σ Req Ans ε β}
    {post : Except ε β → σ → S → Prop} {drop : σ → S → Prop} {s : σ} {t : S} :
    wp srv allowed (p >>= f).run post drop s t ↔
      wp srv allowed p.run (fun r => match r with
        | .ok a => wp srv allowed (f a).run post drop
        | .error e => post (.error e)) drop s t := by
  refine wp_bind.trans (iff_of_eq ?_)
  congr 1
  funext r
  cases r <;> rfl

/-- A computation goes on with its value. -/
theorem wp_of_bind {ε : Type} {r : Except ε α} {f : α → Attempt σ Req Ans ε β}
    {post : Except ε β → σ → S → Prop} {drop : σ → S → Prop} {s : σ} {t : S}
    (hok : ∀ a, r = .ok a → wp srv allowed (f a).run post drop s t)
    (herr : ∀ e, r = .error e → post (.error e) s t) :
    wp srv allowed (Attempt.of r >>= f).run post drop s t := by
  cases r with
  | ok a => exact hok a rfl
  | error e => exact herr e rfl

/-- A request goes on with the value of its answer. -/
theorem wp_ask_bind {ε : Type} {r : Req} {g : Ans r → Except ε α} {f : α → Attempt σ Req Ans ε β}
    {post : Except ε β → σ → S → Prop} {drop : σ → S → Prop} {s : σ} {t : S}
    (hdrop : drop s t) (h : ∀ w ∈ allowed, drop s (srv.step t r w).2 ∧
      wp srv allowed (Attempt.of (g (srv.step t r w).1) >>= f).run post drop s
        (srv.step t r w).2) :
    wp srv allowed (Attempt.ask r g >>= f).run post drop s t := ⟨hdrop, h⟩

/-- Two postconditions that hold hold together. -/
theorem wp_and {p : Prog σ Req Ans α} {post post' : α → σ → S → Prop} {drop drop' : σ → S → Prop}
    {s : σ} {t : S} (h : wp srv allowed p post drop s t) (h' : wp srv allowed p post' drop' s t) :
    wp srv allowed p (fun a s t => post a s t ∧ post' a s t) (fun s t => drop s t ∧ drop' s t)
      s t := by
  induction p generalizing s t with
  | done a => exact ⟨h, h'⟩
  | get k ih => exact ih s h h'
  | put s' k ih => exact ih h h'
  | call r k ih =>
    exact ⟨⟨h.1, h'.1⟩, fun w hw =>
      ⟨⟨(h.2 w hw).1, (h'.2 w hw).1⟩, ih _ (h.2 w hw).2 (h'.2 w hw).2⟩⟩

/-! ### Assertions that a program keeps -/

/-- The program keeps the assertion, whether it returns or is abandoned. -/
def Keeps (srv : Server S Req Ans Ω) (allowed : Set Ω) (K : σ → S → Prop)
    (p : Prog σ Req Ans α) : Prop :=
  ∀ s t, K s t → wp srv allowed p (fun _ => K) K s t

section Keeps

variable {K : σ → S → Prop} {ε : Type}

theorem keeps_done (a : α) : Keeps srv allowed K (.done a : Prog σ Req Ans α) := fun _ _ h => h

/-- A program that reads keeps what each of its continuations keeps. -/
theorem keeps_read_bind {f : σ → Attempt σ Req Ans ε α}
    (h : ∀ s, Keeps srv allowed K (f s).run) :
    Keeps srv allowed K (Attempt.read >>= f).run := fun s t hK => h s s t hK

/-- A program that changes the state keeps what the change keeps. -/
theorem keeps_modify {f : σ → σ} (h : ∀ s t, K s t → K (f s) t) :
    Keeps srv allowed K
      (Attempt.read >>= fun s => (Attempt.write (f s) : Attempt σ Req Ans ε Unit)).run :=
  fun s t hK => h s t hK

/-- A request keeps what the server keeps. -/
theorem keeps_ask {r : Req} {g : Ans r → Except ε α}
    (h : ∀ s t, ∀ w ∈ allowed, K s t → K s (srv.step t r w).2) :
    Keeps srv allowed K (Attempt.ask r g : Attempt σ Req Ans ε α).run :=
  fun s t hK => ⟨hK, fun w hw => ⟨h s t w hw hK, h s t w hw hK⟩⟩

/-- A program that goes on with the value of a computation keeps what it then keeps. -/
theorem keeps_of_bind {r : Except ε α} {f : α → Attempt σ Req Ans ε β}
    (h : ∀ a, r = .ok a → Keeps srv allowed K (f a).run) :
    Keeps srv allowed K (Attempt.of r >>= f).run := by
  cases r with
  | ok a => exact h a rfl
  | error e => exact keeps_done _

/-- A sequence keeps what its parts keep. -/
theorem keeps_bind {p : Attempt σ Req Ans ε α} {f : α → Attempt σ Req Ans ε β}
    (hp : Keeps srv allowed K p.run) (hf : ∀ a, Keeps srv allowed K (f a).run) :
    Keeps srv allowed K (p >>= f).run := by
  intro s t hK
  rw [wp_attempt_bind]
  refine wp_mono (fun r s t h => ?_) (fun _ _ h => h) (hp s t hK)
  cases r with
  | ok a => exact hf a s t h
  | error e => exact h

end Keeps

/-! ### Behaviours and preconditions -/

/-- A script whose choices are all allowed. -/
def Script.Within (allowed : Set Ω) (sc : Script Ω) : Prop :=
  (∀ w ∈ sc.answers, w ∈ allowed) ∧ ∀ w ∈ sc.cut, w ∈ allowed

/-- What a behaviour must satisfy for its kind of end. -/
def Meets (post : α → σ → S → Prop) (drop : σ → S → Prop) : Outcome α × σ × S → Prop
  | (.returned a, s, t) => post a s t
  | (.abandoned, s, t) => drop s t

/-- **Soundness**: a behaviour that starts where the weakest precondition holds
meets its postcondition. -/
theorem meets_of_wp {p : Prog σ Req Ans α} {post : α → σ → S → Prop} {drop : σ → S → Prop}
    {sc : Script Ω} (hsc : sc.Within allowed) {s : σ} {t : S}
    (h : wp srv allowed p post drop s t) : Meets post drop (run srv p sc s t) := by
  induction p generalizing s t sc with
  | done a => exact h
  | get k ih => exact ih s hsc h
  | put s' k ih => exact ih hsc h
  | call r k ih =>
    obtain ⟨ws, c⟩ := sc
    cases ws with
    | cons w ws =>
      have hw : w ∈ allowed := hsc.1 w (List.mem_cons_self ..)
      have hrest : Script.Within allowed ⟨ws, c⟩ :=
        ⟨fun v hv => hsc.1 v (List.mem_cons_of_mem w hv), hsc.2⟩
      exact ih _ hrest (h.2 w hw).2
    | nil =>
      cases c with
      | none => exact h.1
      | some w => exact (h.2 w (hsc.2 w rfl)).1

/-- **The weakest precondition is exactly what the behaviours require.** -/
theorem wp_iff_run {p : Prog σ Req Ans α} {post : α → σ → S → Prop} {drop : σ → S → Prop}
    {s : σ} {t : S} : wp srv allowed p post drop s t ↔
      ∀ sc : Script Ω, sc.Within allowed → Meets post drop (run srv p sc s t) := by
  refine ⟨fun h sc hsc => meets_of_wp hsc h, fun h => ?_⟩
  induction p generalizing s t with
  | done a => exact h ⟨[], none⟩ ⟨by simp, by simp⟩
  | get k ih => exact ih s h
  | put s' k ih => exact ih h
  | call r k ih =>
    refine ⟨h ⟨[], none⟩ ⟨by simp, by simp⟩, fun w hw => ⟨?_, ih _ fun sc hsc => ?_⟩⟩
    · exact h ⟨[], some w⟩ ⟨by simp, by simpa using hw⟩
    · refine h ⟨w :: sc.answers, sc.cut⟩ ⟨fun v hv => ?_, hsc.2⟩
      rcases List.mem_cons.mp hv with rfl | hv
      · exact hw
      · exact hsc.1 v hv

/-- What a program does that is never abandoned, for a choice at each of its calls. -/
def exec (srv : Server S Req Ans Ω) : Prog σ Req Ans α → (ℕ → Ω) → σ → S → α × σ × S
  | .done a, _, s, t => (a, s, t)
  | .get k, ws, s, t => exec srv (k s) ws s t
  | .put s' k, ws, _, t => exec srv k ws s' t
  | .call r k, ws, s, t =>
    let (a, t') := srv.step t r (ws 0)
    exec srv (k a) (fun n => ws (n + 1)) s t'

/-- **Soundness** for programs that are never abandoned. -/
theorem exec_of_wp {p : Prog σ Req Ans α} {post : α → σ → S → Prop} {drop : σ → S → Prop}
    {ws : ℕ → Ω} (hws : ∀ n, ws n ∈ allowed) {s : σ} {t : S}
    (h : wp srv allowed p post drop s t) :
    post (exec srv p ws s t).1 (exec srv p ws s t).2.1 (exec srv p ws s t).2.2 := by
  induction p generalizing s t ws with
  | done a => exact h
  | get k ih => exact ih s hws h
  | put s' k ih => exact ih hws h
  | call r k ih => exact ih _ (fun n => hws (n + 1)) (h.2 _ (hws 0)).2

end Rules

end Client
