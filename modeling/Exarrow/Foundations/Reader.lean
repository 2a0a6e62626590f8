import Exarrow.Foundations.Checked

/-!
# Programs that read a byte string

A reader consumes a byte string from its front and knows how far it has come. Besides
taking bytes it meets *guards*: places at which the program stops unless a condition on
its own numbers holds, as it does when an addition overflows or a reservation is too
large. Nothing is said here about what the guards are.

* `Wire.Reader.run` – what a reader does: it returns a value, returns an error, or stops
  at a guard.
* `Wire.Reader.guards` – the guards that it comes to in a byte string, none of them taken
  to stop it. **A reader stops exactly when one of them does not hold**
  (`Wire.Reader.run_eq_stop_iff`), so that safety is a statement about the input.
* `Wire.Reads` – a reader reads a byte string as a value, whatever follows. Encoders are
  verified with it: `Wire.Reads.bind` puts readings after each other, and
  `Wire.Reads.run_bind` goes on where one ends.
* `Wire.Refuses` – a reader does not read a byte string as anything; `Wire.Passes` – it
  goes on behind it as another reader.
* `Wire.Local` – a reader looks at nothing but the bytes that it takes, so that **what it
  has read in one place it reads everywhere**. Sequences and repetitions of such readers are
  local. `Wire.Movable` – it may look at how many bytes are left; `Wire.TakesAtLeast` – it
  takes so many bytes.
-/

namespace Wire

open Checked

variable {G ε α β γ : Type}

/-- A program that reads a byte string, with guards `G` and errors `ε`. -/
inductive Reader (G ε α : Type) where
  /-- The program returns a value. -/
  | done (a : α)
  /-- The program returns an error. -/
  | fail (e : ε)
  /-- The program takes a number of bytes; it returns an error if there are fewer. -/
  | take (n : ℕ) (e : ε) (k : List UInt8 → Reader G ε α)
  /-- The program stops unless a guard holds. -/
  | guard (g : G) (k : Reader G ε α)
  /-- The program looks at the number of bytes it has taken. -/
  | offset (k : ℕ → Reader G ε α)
  /-- The program looks at the number of bytes that are left. -/
  | remaining (k : ℕ → Reader G ε α)

namespace Reader

/-- Sequencing. -/
def bind : Reader G ε α → (α → Reader G ε β) → Reader G ε β
  | done a, f => f a
  | fail e, _ => fail e
  | take n e k, f => take n e fun bs => (k bs).bind f
  | guard g k, f => guard g (k.bind f)
  | offset k, f => offset fun o => (k o).bind f
  | remaining k, f => remaining fun r => (k r).bind f

instance : Monad (Reader G ε) where
  pure := done
  bind := bind

@[simp] theorem pure_eq (a : α) : (pure a : Reader G ε α) = done a := rfl

@[simp] theorem bind_eq (p : Reader G ε α) (f : α → Reader G ε β) : p >>= f = p.bind f := rfl

theorem bind_done (p : Reader G ε α) : p.bind done = p := by
  induction p with
  | done a => rfl
  | fail e => rfl
  | take n e k ih => exact congrArg (take n e) (funext ih)
  | guard g k ih => exact congrArg (guard g) ih
  | offset k ih => exact congrArg offset (funext ih)
  | remaining k ih => exact congrArg remaining (funext ih)

theorem bind_bind (p : Reader G ε α) (f : α → Reader G ε β) (g : β → Reader G ε γ) :
    (p.bind f).bind g = p.bind fun a => (f a).bind g := by
  induction p with
  | done a => rfl
  | fail e => rfl
  | take n e k ih => exact congrArg (take n e) (funext ih)
  | guard c k ih => exact congrArg (guard c) ih
  | offset k ih => exact congrArg offset (funext ih)
  | remaining k ih => exact congrArg remaining (funext ih)

instance : LawfulMonad (Reader G ε) :=
  .mk' (m := Reader G ε) (fun p => bind_done p) (fun _ _ => rfl) (fun p f g => bind_bind p f g)

/-- Go on with the result of a computation, which is guarded so that it does not stop. -/
def ofExec (g : G) (stopped : ε) (x : Exec ε α) : Reader G ε α :=
  guard g (match x with
    | .ok a => done a
    | .error (.error e) => fail e
    | .error .panic => fail stopped)

/-- Read a number of times. -/
def times (p : Reader G ε α) : ℕ → Reader G ε (List α)
  | 0 => done []
  | n + 1 => do
    let a ← p
    let rest ← times p n
    return a :: rest

/-! ### Behaviour -/

/-- What a reader does, from an offset, on the bytes that are left there. It returns a
value, the offset it has come to and the bytes that are left then. -/
def run (holds : G → Bool) : Reader G ε α → ℕ → List UInt8 → Exec ε (α × ℕ × List UInt8)
  | done a, o, bs => .ok (a, o, bs)
  | fail e, _, _ => Checked.fail e
  | take n e k, o, bs =>
    if n ≤ bs.length then run holds (k (bs.take n)) (o + n) (bs.drop n) else Checked.fail e
  | guard g k, o, bs => if holds g then run holds k o bs else stop
  | offset k, o, bs => run holds (k o) o bs
  | remaining k, o, bs => run holds (k bs.length) o bs

/-- The guards that a reader comes to, none of them taken to stop it. -/
def guards : Reader G ε α → ℕ → List UInt8 → List G
  | done _, _, _ => []
  | fail _, _, _ => []
  | take n _ k, o, bs => if n ≤ bs.length then guards (k (bs.take n)) (o + n) (bs.drop n) else []
  | guard g k, o, bs => g :: guards k o bs
  | offset k, o, bs => guards (k o) o bs
  | remaining k, o, bs => guards (k bs.length) o bs

variable {holds : G → Bool}

theorem run_take (n : ℕ) (e : ε) (k : List UInt8 → Reader G ε α) (o : ℕ) (bs : List UInt8) :
    (take n e k).run holds o bs = if n ≤ bs.length then
      (k (bs.take n)).run holds (o + n) (bs.drop n) else Checked.fail e := rfl

theorem run_guard (g : G) (k : Reader G ε α) (o : ℕ) (bs : List UInt8) :
    (guard g k).run holds o bs = if holds g then k.run holds o bs else stop := rfl

/-- **A reader stops exactly when it comes to a guard that does not hold.** -/
theorem run_eq_stop_iff (p : Reader G ε α) (o : ℕ) (bs : List UInt8) :
    p.run holds o bs = stop ↔ ∃ g ∈ p.guards o bs, holds g = false := by
  induction p generalizing o bs with
  | done a => exact ⟨fun h => (nomatch h), fun ⟨_, h, _⟩ => (nomatch h)⟩
  | fail e => exact ⟨fun h => (nomatch h), fun ⟨_, h, _⟩ => (nomatch h)⟩
  | take n e k ih =>
    unfold run guards
    split
    · exact ih _ _ _
    · exact ⟨fun h => (nomatch h), fun ⟨_, h, _⟩ => (nomatch h)⟩
  | guard g k ih =>
    unfold run guards
    rw [List.exists_mem_cons_iff, ← ih]
    cases hg : holds g with
    | true => exact ⟨.inr, fun h => h.resolve_left Bool.noConfusion⟩
    | false => exact ⟨fun _ => .inl rfl, fun _ => rfl⟩
  | offset k ih => exact ih _ _ _
  | remaining k ih => exact ih _ _ _

/-- A sequence does what its parts do. -/
theorem run_bind (p : Reader G ε α) (f : α → Reader G ε β) (o : ℕ) (bs : List UInt8) :
    (p.bind f).run holds o bs = (p.run holds o bs >>= fun r => (f r.1).run holds r.2.1 r.2.2) := by
  induction p generalizing o bs with
  | done a => rfl
  | fail e => rfl
  | take n e k ih =>
    rw [bind, run_take, run_take]
    split
    · exact ih _ _ _
    · rfl
  | guard g k ih =>
    rw [bind, run_guard, run_guard]
    split
    · exact ih _ _
    · rfl
  | offset k ih => exact ih _ _ _
  | remaining k ih => exact ih _ _ _

/-- What a reader leaves is a suffix of what it was given, at the right offset. -/
theorem run_eq_ok {p : Reader G ε α} {o o' : ℕ} {bs bs' : List UInt8} {a : α}
    (h : p.run holds o bs = .ok (a, o', bs')) :
    ∃ taken, bs = taken ++ bs' ∧ o' = o + taken.length := by
  induction p generalizing o bs with
  | done a =>
    cases h
    exact ⟨[], rfl, rfl⟩
  | fail e => cases h
  | take n e k ih =>
    rw [run_take] at h
    split at h
    · rename_i hn
      obtain ⟨taken, hbs, ho⟩ := ih _ h
      refine ⟨bs.take n ++ taken, ?_, ?_⟩
      · rw [List.append_assoc, ← hbs, List.take_append_drop]
      · rw [ho, List.length_append, List.length_take_of_le hn, Nat.add_assoc]
    · cases h
  | guard g k ih =>
    rw [run_guard] at h
    split at h
    · exact ih h
    · cases h
  | offset k ih => exact ih _ h
  | remaining k ih => exact ih _ h

end Reader

/-! ### Reading what was written -/

/-- The reader reads a byte string as a value, wherever it stands and whatever follows,
as long as everything together stays below a limit. -/
def Reads (holds : G → Bool) (limit : ℕ) (p : Reader G ε α) (bs : List UInt8) (a : α) : Prop :=
  ∀ o post, o + bs.length + post.length < limit →
    p.run holds o (bs ++ post) = .ok (a, o + bs.length, post)

namespace Reads

variable {holds : G → Bool} {limit : ℕ} {p : Reader G ε α} {f : α → Reader G ε β} {a : α} {b : β}
  {bs bs' : List UInt8}

/-- A reader that returns reads nothing. -/
theorem done : Reads (ε := ε) holds limit (.done a) [] a := fun _ _ _ => rfl

/-- A reader that takes as many bytes as there are goes on with them. -/
theorem take {e : ε} {k : List UInt8 → Reader G ε α} (h : Reads holds limit (k bs) [] a) :
    Reads holds limit (.take bs.length e k) bs a := by
  intro o post hlt
  have hle : bs.length ≤ (bs ++ post).length := by
    rw [List.length_append]
    exact Nat.le_add_right _ _
  rw [Reader.run_take, if_pos hle, List.take_left, List.drop_left]
  exact h (o + bs.length) post hlt

/-- **After a reading, the next reader goes on.** -/
theorem run_bind (h : Reads holds limit p bs a) {o : ℕ} {post : List UInt8}
    (hlt : o + bs.length + post.length < limit) :
    (p.bind f).run holds o (bs ++ post) = (f a).run holds (o + bs.length) post := by
  rw [Reader.run_bind, h o post hlt]
  rfl

/-- **Readings compose.** -/
theorem bind (h : Reads holds limit p bs a) (h' : Reads holds limit (f a) bs' b) :
    Reads holds limit (p.bind f) (bs ++ bs') b := by
  intro o post hlt
  rw [List.length_append, ← Nat.add_assoc] at hlt
  have hlt' : o + bs.length + (bs' ++ post).length < limit := by
    rw [List.length_append]
    omega
  rw [List.append_assoc, h.run_bind hlt', h' _ _ hlt, List.length_append, Nat.add_assoc]

/-- A reading is made into another value. -/
theorem map (h : Reads holds limit p bs a) (g : α → β) :
    Reads holds limit (p.bind fun x => .done (g x)) bs (g a) := by
  have h' := h.bind (f := fun x => .done (g x)) (done (a := g a))
  rwa [List.append_nil] at h'

/-- A guard that holds is passed. -/
theorem guard {g : G} (hg : holds g = true) (h : Reads holds limit p bs a) :
    Reads holds limit (.guard g p) bs a := by
  intro o post hlt
  rw [Reader.run_guard, if_pos hg]
  exact h o post hlt

/-- A byte string is read as one value only. -/
theorem unique {a' : α} (h : Reads holds limit p bs a) (h' : Reads holds limit p bs a')
    (hlt : bs.length < limit) : a = a' := by
  have hrun := (h 0 [] (by simpa using hlt)).symm.trans (h' 0 [] (by simpa using hlt))
  exact (Prod.mk.inj (Except.ok.inj hrun)).1

/-- A part of a byte string is not read as all of it. -/
theorem length_eq {rest : List UInt8} {a' : α} (h : Reads holds limit p bs a)
    (h' : Reads holds limit p (bs ++ rest) a') (hlt : (bs ++ rest).length < limit) : rest = [] := by
  have hlen : bs.length + rest.length < limit := by rwa [List.length_append] at hlt
  have h0 := h 0 rest (by simpa using hlen)
  have h1 := h' 0 [] (by simpa using hlt)
  rw [List.append_nil] at h1
  obtain ⟨-, h2⟩ := Prod.mk.inj (Except.ok.inj (h0.symm.trans h1))
  exact (Prod.mk.inj h2).2

/-- **Repeated readings**: what is read of each item is related to it. -/
theorem times {encode : γ → List UInt8} {R : γ → α → Prop} {items : List γ}
    (h : ∀ x ∈ items, ∃ a, Reads holds limit p (encode x) a ∧ R x a) :
    ∃ as, Reads holds limit (p.times items.length) (items.flatMap encode) as ∧
      List.Forall₂ R items as := by
  induction items with
  | nil => exact ⟨[], done, .nil⟩
  | cons x items ih =>
    obtain ⟨a, ha, hR⟩ := h x List.mem_cons_self
    obtain ⟨as, has, hRs⟩ := ih fun y hy => h y (List.mem_cons_of_mem x hy)
    exact ⟨a :: as, ha.bind (has.map (a :: ·)), .cons hR hRs⟩

/-- **Readings of a list of readers**: what each reads is related to its item. -/
theorem mapM {f : γ → Reader G ε β} {encode : γ → List UInt8} {R : γ → β → Prop}
    {items : List γ} (h : ∀ x ∈ items, ∃ b, Reads holds limit (f x) (encode x) b ∧ R x b) :
    ∃ as, Reads holds limit (items.mapM f) (items.flatMap encode) as ∧
      List.Forall₂ R items as := by
  induction items with
  | nil => exact ⟨[], done, .nil⟩
  | cons x items ih =>
    obtain ⟨b, hb, hR⟩ := h x List.mem_cons_self
    obtain ⟨bs, hbs, hRs⟩ := ih fun y hy => h y (List.mem_cons_of_mem x hy)
    refine ⟨b :: bs, ?_, .cons hR hRs⟩
    rw [List.mapM_cons]
    exact hb.bind (hbs.map (b :: ·))

end Reads

/-- The reader does not read a byte string as anything, wherever it stands and whatever
follows, as long as everything together stays below a limit. -/
def Refuses (holds : G → Bool) (limit : ℕ) (p : Reader G ε α) (bs : List UInt8) : Prop :=
  ∀ o post, o + bs.length + post.length < limit → ∀ r, p.run holds o (bs ++ post) ≠ .ok r

namespace Refuses

variable {holds : G → Bool} {limit : ℕ} {p : Reader G ε α} {f : α → Reader G ε β} {a : α}
  {bs bs' : List UInt8}

/-- A reader that returns an error refuses everything. -/
theorem fail {e : ε} : Refuses (α := α) holds limit (.fail e : Reader G ε α) bs :=
  fun _ _ _ _ h => (nomatch h)

/-- What follows a refusal is not read. -/
theorem bind (h : Refuses holds limit p bs) : Refuses holds limit (p.bind f) (bs ++ bs') := by
  intro o post hlt r hr
  rw [List.length_append] at hlt
  rw [List.append_assoc, Reader.run_bind] at hr
  obtain ⟨x, hx, -⟩ := bind_eq_ok.mp hr
  refine h o (bs' ++ post) ?_ x hx
  rw [List.length_append]
  omega

/-- A refusal is not made into a value. -/
theorem map (h : Refuses holds limit p bs) : Refuses holds limit (p.bind f) bs := by
  have hbind := @bind _ _ _ _ _ _ _ f bs [] h
  rwa [List.append_nil] at hbind

/-- After a reading, the next reader refuses. -/
theorem after (h : Reads holds limit p bs a) (h' : Refuses holds limit (f a) bs') :
    Refuses holds limit (p.bind f) (bs ++ bs') := by
  intro o post hlt r hr
  rw [List.length_append, ← Nat.add_assoc] at hlt
  have hlt' : o + bs.length + (bs' ++ post).length < limit := by
    rw [List.length_append]
    omega
  rw [List.append_assoc, h.run_bind hlt'] at hr
  exact h' _ _ hlt r hr

/-- A guard changes nothing about a refusal. -/
theorem guard {g : G} (h : Refuses holds limit p bs) : Refuses holds limit (.guard g p) bs := by
  intro o post hlt r hr
  rw [Reader.run_guard] at hr
  split at hr
  · exact h o post hlt r hr
  · cases hr

/-- **Repeated readings refuse** items one of which is refused. -/
theorem times {encode : γ → List UInt8} {good : γ → Prop} {items : List γ}
    (hgood : ∀ x ∈ items, good x → ∃ a, Reads holds limit p (encode x) a)
    (hbad : ∀ x ∈ items, ¬good x → Refuses holds limit p (encode x))
    (h : ∃ x ∈ items, ¬good x) :
    Refuses holds limit (p.times items.length) (items.flatMap encode) := by
  induction items with
  | nil =>
    obtain ⟨x, hx, -⟩ := h
    cases hx
  | cons x items ih =>
    by_cases hx : good x
    · obtain ⟨a, ha⟩ := hgood x List.mem_cons_self hx
      have hrest := (List.exists_mem_cons_iff ..).mp h |>.resolve_left (not_not_intro hx)
      exact after ha (ih (fun y hy => hgood y (List.mem_cons_of_mem x hy))
        (fun y hy => hbad y (List.mem_cons_of_mem x hy)) hrest).map
    · exact (hbad x List.mem_cons_self hx).bind

/-- **Readings of a list of readers refuse** items one of which is refused. -/
theorem mapM {f : γ → Reader G ε β} {encode : γ → List UInt8} {good : γ → Prop}
    {items : List γ} (hgood : ∀ x ∈ items, good x → ∃ b, Reads holds limit (f x) (encode x) b)
    (hbad : ∀ x ∈ items, ¬good x → Refuses holds limit (f x) (encode x))
    (h : ∃ x ∈ items, ¬good x) :
    Refuses holds limit (items.mapM f) (items.flatMap encode) := by
  induction items with
  | nil =>
    obtain ⟨x, hx, -⟩ := h
    cases hx
  | cons x items ih =>
    rw [List.mapM_cons]
    by_cases hx : good x
    · obtain ⟨b, hb⟩ := hgood x List.mem_cons_self hx
      have hrest := (List.exists_mem_cons_iff ..).mp h |>.resolve_left (not_not_intro hx)
      exact after hb (ih (fun y hy => hgood y (List.mem_cons_of_mem x hy))
        (fun y hy => hbad y (List.mem_cons_of_mem x hy)) hrest).map
    · exact (hbad x List.mem_cons_self hx).bind

end Refuses

/-- The reader passes a byte string and goes on as another reader, wherever it stands and
whatever follows, as long as everything together stays below a limit. -/
def Passes (holds : G → Bool) (limit : ℕ) (p : Reader G ε α) (bs : List UInt8)
    (q : Reader G ε α) : Prop :=
  ∀ o post, o + bs.length + post.length < limit →
    p.run holds o (bs ++ post) = q.run holds (o + bs.length) post

section Passes

variable {holds : G → Bool} {limit : ℕ} {p : Reader G ε α} {f : α → Reader G ε β} {a : α}
  {bs bs' : List UInt8}

/-- After a reading, the reader goes on with what was read. -/
theorem Reads.passes (h : Reads holds limit p bs a) : Passes holds limit (p.bind f) bs (f a) :=
  fun _ _ hlt => h.run_bind hlt

/-- A guard that holds is passed without a byte. -/
theorem passes_guard {g : G} (hg : holds g = true) : Passes holds limit (.guard g p) [] p := by
  intro o post _
  rw [Reader.run_guard, if_pos hg]
  rfl

namespace Passes

variable {q r : Reader G ε α}

/-- What is passed piece by piece is passed. -/
theorem trans (h : Passes holds limit p bs q) (h' : Passes holds limit q bs' r) :
    Passes holds limit p (bs ++ bs') r := by
  intro o post hlt
  rw [List.length_append, ← Nat.add_assoc] at hlt
  have hlt' : o + bs.length + (bs' ++ post).length < limit := by
    rw [List.length_append]
    omega
  rw [List.append_assoc, h o _ hlt', h' _ _ hlt, List.length_append, Nat.add_assoc]

/-- A reader reads what it passes and what is read then. -/
theorem reads (h : Passes holds limit p bs q) (h' : Reads holds limit q bs' a) :
    Reads holds limit p (bs ++ bs') a := by
  intro o post hlt
  rw [List.length_append, ← Nat.add_assoc] at hlt
  have hlt' : o + bs.length + (bs' ++ post).length < limit := by
    rw [List.length_append]
    omega
  rw [List.append_assoc, h o _ hlt', h' _ _ hlt, List.length_append, Nat.add_assoc]

/-- A reader refuses what is refused after what it passes. -/
theorem refuses (h : Passes holds limit p bs q) (h' : Refuses holds limit q bs') :
    Refuses holds limit p (bs ++ bs') := by
  intro o post hlt x hx
  rw [List.length_append, ← Nat.add_assoc] at hlt
  have hlt' : o + bs.length + (bs' ++ post).length < limit := by
    rw [List.length_append]
    omega
  rw [List.append_assoc, h o _ hlt'] at hx
  exact h' _ _ hlt x hx

end Passes

end Passes

/-! ### Reading elsewhere -/

section Elsewhere

variable {holds : G → Bool} {limit : ℕ}

/-- What the reader has read it reads wherever it stands and whatever follows. -/
def Local (holds : G → Bool) (limit : ℕ) (p : Reader G ε α) : Prop :=
  ∀ ⦃o o' : ℕ⦄ ⦃bs rest : List UInt8⦄ ⦃a : α⦄, o + bs.length < limit →
    p.run holds o bs = .ok (a, o', rest) → ∃ taken, bs = taken ++ rest ∧ Reads holds limit p taken a

/-- What the reader has read it reads wherever it stands; it may look at how many bytes
follow. -/
def Movable (holds : G → Bool) (limit : ℕ) (p : Reader G ε α) : Prop :=
  ∀ ⦃o o₁ o' : ℕ⦄ ⦃bs rest : List UInt8⦄ ⦃a : α⦄, o + bs.length < limit → o₁ + bs.length < limit →
    p.run holds o bs = .ok (a, o', rest) → ∃ o₁', p.run holds o₁ bs = .ok (a, o₁', rest)

/-- A reader leaves no more than it was given, counted from its offset. -/
theorem Reader.add_length_of_run {p : Reader G ε α} {o o' : ℕ} {bs rest : List UInt8} {a : α}
    (h : p.run holds o bs = .ok (a, o', rest)) : o' + rest.length = o + bs.length := by
  obtain ⟨taken, rfl, rfl⟩ := Reader.run_eq_ok h
  rw [List.length_append]
  omega

/-- Both parts of a sequence that returns have returned. -/
theorem Reader.run_bind_eq_ok {p : Reader G ε α} {f : α → Reader G ε β} {o o' : ℕ}
    {bs rest : List UInt8} {b : β} : (p.bind f).run holds o bs = .ok (b, o', rest) ↔
      ∃ a o₁ mid, p.run holds o bs = .ok (a, o₁, mid) ∧
        (f a).run holds o₁ mid = .ok (b, o', rest) := by
  rw [Reader.run_bind, bind_eq_ok]
  constructor
  · rintro ⟨⟨a, o₁, mid⟩, hp, hf⟩
    exact ⟨a, o₁, mid, hp, hf⟩
  · rintro ⟨a, o₁, mid, hp, hf⟩
    exact ⟨(a, o₁, mid), hp, hf⟩

/-- What is read a number of times gives so many values. -/
theorem Reader.length_of_run_times {p : Reader G ε α} {n o o' : ℕ} {bs rest : List UInt8}
    {as : List α} (h : (p.times n).run holds o bs = .ok (as, o', rest)) : as.length = n := by
  induction n generalizing o bs as with
  | zero =>
    cases h
    rfl
  | succ n ih =>
    obtain ⟨a, o₁, mid, -, htail⟩ := Reader.run_bind_eq_ok.mp h
    obtain ⟨tail, o₂, mid', htimes, hdone⟩ := Reader.run_bind_eq_ok.mp htail
    cases hdone
    rw [List.length_cons, ih htimes]

namespace Local

variable {p : Reader G ε α} {f : α → Reader G ε β}

theorem done (a : α) : Local holds limit (.done a : Reader G ε α) := by
  rintro o o' bs rest b - h
  cases h
  exact ⟨[], rfl, .done⟩

theorem fail (e : ε) : Local holds limit (.fail e : Reader G ε α) := by
  rintro o o' bs rest b - h
  cases h

/-- A reader that takes bytes is local if it is with each of them. -/
theorem take {n : ℕ} {e : ε} {k : List UInt8 → Reader G ε α} (h : ∀ bs, Local holds limit (k bs)) :
    Local holds limit (.take n e k) := by
  intro o o' bs rest a hlt hrun
  rw [Reader.run_take] at hrun
  split at hrun
  case isFalse => cases hrun
  case isTrue hn =>
    have hlt' : o + n + (bs.drop n).length < limit := by
      rw [List.length_drop]
      omega
    obtain ⟨taken, hdrop, hreads⟩ := h _ hlt' hrun
    refine ⟨bs.take n ++ taken, ?_, ?_⟩
    · rw [List.append_assoc, ← hdrop, List.take_append_drop]
    · have hlen : (bs.take n).length = n := List.length_take_of_le hn
      have hpasses : Passes holds limit (.take n e k) (bs.take n) (k (bs.take n)) := by
        intro o₁ post _
        have hle : n ≤ (bs.take n ++ post).length := by
          rw [List.length_append]
          omega
        rw [Reader.run_take, if_pos hle, List.take_left' hlen, List.drop_left' hlen, hlen]
      exact hpasses.reads hreads

theorem guard {g : G} (h : Local holds limit p) : Local holds limit (.guard g p) := by
  intro o o' bs rest a hlt hrun
  rw [Reader.run_guard] at hrun
  split at hrun
  case isFalse => cases hrun
  case isTrue hg =>
    obtain ⟨taken, hbs, hreads⟩ := h hlt hrun
    exact ⟨taken, hbs, hreads.guard hg⟩

/-- **A sequence is local if its parts are.** -/
theorem bind (h : Local holds limit p) (hf : ∀ a, Local holds limit (f a)) :
    Local holds limit (p.bind f) := by
  intro o o' bs rest b hlt hrun
  obtain ⟨a, o₁, mid, hp, hb⟩ := Reader.run_bind_eq_ok.mp hrun
  have hlen := Reader.add_length_of_run hp
  obtain ⟨front, rfl, hfront⟩ := h hlt hp
  obtain ⟨back, rfl, hback⟩ := hf a (hlen ▸ hlt) hb
  exact ⟨front ++ back, (List.append_assoc ..).symm, hfront.bind hback⟩

theorem map (h : Local holds limit p) (g : α → β) :
    Local holds limit (p.bind fun a => .done (g a)) := h.bind fun a => done (g a)

/-- The result of a computation is local. -/
theorem ofExec (g : G) (stopped : ε) (x : Exec ε α) :
    Local holds limit (Reader.ofExec g stopped x) := by
  refine guard ?_
  rcases x with (e | _) | a
  · exact fail e
  · exact fail stopped
  · exact done a

theorem times (h : Local holds limit p) (n : ℕ) : Local holds limit (p.times n) := by
  induction n with
  | zero => exact done []
  | succ n ih => exact h.bind fun a => ih.map (a :: ·)

theorem mapM {f : γ → Reader G ε β} (items : List γ) (h : ∀ x ∈ items, Local holds limit (f x)) :
    Local holds limit (items.mapM f) := by
  induction items with
  | nil => exact done []
  | cons x items ih =>
    rw [List.mapM_cons]
    exact (h x List.mem_cons_self).bind fun b =>
      (ih fun y hy => h y (List.mem_cons_of_mem x hy)).map (b :: ·)

/-- What is read whatever follows is read wherever it stands. -/
theorem movable (h : Local holds limit p) : Movable holds limit p := by
  intro o o₁ o' bs rest a hlt hlt₁ hrun
  obtain ⟨taken, rfl, hreads⟩ := h hlt hrun
  rw [List.length_append, ← Nat.add_assoc] at hlt₁
  exact ⟨_, hreads o₁ rest hlt₁⟩

end Local

namespace Movable

variable {p : Reader G ε α} {f : α → Reader G ε β}

theorem done (a : α) : Movable holds limit (.done a : Reader G ε α) := (Local.done a).movable

theorem fail (e : ε) : Movable holds limit (.fail e : Reader G ε α) := (Local.fail e).movable

theorem bind (h : Movable holds limit p) (hf : ∀ a, Movable holds limit (f a)) :
    Movable holds limit (p.bind f) := by
  intro o o₁ o' bs rest b hlt hlt₁ hrun
  obtain ⟨a, o₂, mid, hp, hb⟩ := Reader.run_bind_eq_ok.mp hrun
  obtain ⟨o₃, hp₁⟩ := h hlt hlt₁ hp
  have hlen := Reader.add_length_of_run hp
  have hlen₁ := Reader.add_length_of_run hp₁
  obtain ⟨o₄, hb₁⟩ := hf a (hlen ▸ hlt) (hlen₁ ▸ hlt₁) hb
  exact ⟨o₄, Reader.run_bind_eq_ok.mpr ⟨a, o₃, mid, hp₁, hb₁⟩⟩

theorem remaining {k : ℕ → Reader G ε α} (h : ∀ r, Movable holds limit (k r)) :
    Movable holds limit (.remaining k) := fun _ _ _ bs _ _ hlt hlt₁ hrun =>
  h bs.length hlt hlt₁ hrun

end Movable

/-- The reader takes so many bytes at least when it returns. -/
def TakesAtLeast (holds : G → Bool) (k : ℕ) (p : Reader G ε α) : Prop :=
  ∀ ⦃o o' : ℕ⦄ ⦃bs rest : List UInt8⦄ ⦃a : α⦄, p.run holds o bs = .ok (a, o', rest) →
    rest.length + k ≤ bs.length

namespace TakesAtLeast

variable {p : Reader G ε α} {f : α → Reader G ε β} {k l : ℕ}

theorem zero (p : Reader G ε α) : TakesAtLeast holds 0 p := by
  intro o o' bs rest a h
  obtain ⟨taken, rfl, -⟩ := Reader.run_eq_ok h
  rw [List.length_append]
  omega

theorem take {n : ℕ} {e : ε} {f : List UInt8 → Reader G ε α} :
    TakesAtLeast holds n (.take n e f) := by
  intro o o' bs rest a h
  rw [Reader.run_take] at h
  split at h
  case isFalse => cases h
  case isTrue hn =>
    have hle := zero _ h
    rw [List.length_drop] at hle
    omega

/-- A sequence takes what its parts take. -/
theorem bind (h : TakesAtLeast holds k p) (hf : ∀ a, TakesAtLeast holds l (f a)) :
    TakesAtLeast holds (k + l) (p.bind f) := by
  intro o o' bs rest b hrun
  obtain ⟨a, o₁, mid, hp, hb⟩ := Reader.run_bind_eq_ok.mp hrun
  have hfirst := h hp
  have hsecond := hf a hb
  omega

/-- What the second part of a sequence takes, the sequence takes. -/
theorem after (p : Reader G ε α) (hf : ∀ a, TakesAtLeast holds l (f a)) :
    TakesAtLeast holds l (p.bind f) := by
  have h := bind (zero p) hf
  rwa [Nat.zero_add] at h

/-- What the first part of a sequence takes, the sequence takes. -/
theorem before (h : TakesAtLeast holds k p) (f : α → Reader G ε β) :
    TakesAtLeast holds k (p.bind f) := h.bind fun a => zero (f a)

theorem times (h : TakesAtLeast holds k p) (n : ℕ) : TakesAtLeast holds (n * k) (p.times n) := by
  induction n with
  | zero =>
    rw [Nat.zero_mul]
    exact zero _
  | succ n ih =>
    rw [Nat.succ_mul, Nat.add_comm]
    exact h.bind fun a => ih.before _

theorem mapM {f : γ → Reader G ε β} (items : List γ)
    (h : ∀ x ∈ items, TakesAtLeast holds k (f x)) :
    TakesAtLeast holds (items.length * k) (items.mapM f) := by
  induction items with
  | nil =>
    rw [List.length_nil, Nat.zero_mul]
    exact zero _
  | cons x items ih =>
    rw [List.mapM_cons, List.length_cons, Nat.succ_mul, Nat.add_comm]
    exact (h x List.mem_cons_self).bind fun b =>
      (ih fun y hy => h y (List.mem_cons_of_mem x hy)).before _

end TakesAtLeast

end Elsewhere

end Wire
