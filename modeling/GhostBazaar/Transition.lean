import Mathlib.Data.List.Basic

/-! Labelled transition functions. A schedule is a list of labels; a label that is not
enabled leaves the state as it is, so every schedule runs. -/
namespace GhostBazaar.Transition

variable {σ ι : Type} (step : σ → ι → Option σ)

def next (s : σ) (i : ι) : σ := (step s i).getD s

def run (s : σ) (is : List ι) : σ := is.foldl (next step) s

@[simp] theorem run_nil (s : σ) : run step s [] = s := rfl

@[simp] theorem run_cons (s : σ) (i : ι) (is : List ι) :
    run step s (i :: is) = run step (next step s i) is := rfl

theorem run_append (s : σ) (is js : List ι) :
    run step s (is ++ js) = run step (run step s is) js := List.foldl_append

/-- Every label of the schedule meets `ok` in the state where it is taken. -/
def Guarded (ok : σ → ι → Prop) : σ → List ι → Prop
  | _, [] => True
  | s, i :: is => ok s i ∧ Guarded ok (next step s i) is

instance Guarded.decidable {ok : σ → ι → Prop} [dec : ∀ s i, Decidable (ok s i)] (s : σ) :
    (is : List ι) → Decidable (Guarded step ok s is)
  | [] => .isTrue trivial
  | i :: is => @instDecidableAnd _ _ (dec s i) (Guarded.decidable (next step s i) is)

variable {step}

theorem Guarded.append {ok : σ → ι → Prop} {s : σ} {is js : List ι} :
    Guarded step ok s (is ++ js) ↔
      Guarded step ok s is ∧ Guarded step ok (run step s is) js := by
  induction is generalizing s with
  | nil => simp [Guarded]
  | cons i is ih => simp [Guarded, ih, and_assoc]

theorem Guarded.of_forall {ok : σ → ι → Prop} (h : ∀ s i, ok s i) (s : σ) (is : List ι) :
    Guarded step ok s is := by
  induction is generalizing s with
  | nil => trivial
  | cons i is ih => exact ⟨h s i, ih _⟩

theorem Guarded.imp {ok ok' : σ → ι → Prop} {s : σ} {is : List ι} (hg : Guarded step ok s is)
    (h : ∀ s i, ok s i → ok' s i) : Guarded step ok' s is := by
  induction is generalizing s with
  | nil => trivial
  | cons i is ih => exact ⟨h s i hg.1, ih hg.2⟩

theorem Guarded.and {ok ok' : σ → ι → Prop} {s : σ} {is : List ι} (hg : Guarded step ok s is)
    (hg' : Guarded step ok' s is) : Guarded step (fun s i => ok s i ∧ ok' s i) s is := by
  induction is generalizing s with
  | nil => trivial
  | cons i is ih => exact ⟨⟨hg.1, hg'.1⟩, ih hg.2 hg'.2⟩

/-- A guard and a test of the labels alone. -/
theorem Guarded.and_mem {ok : σ → ι → Prop} {Q : ι → Prop} {s : σ} {is : List ι}
    (hg : Guarded step ok s is) (hq : ∀ i ∈ is, Q i) :
    Guarded step (fun s i => ok s i ∧ Q i) s is := by
  induction is generalizing s with
  | nil => trivial
  | cons i is ih =>
    rw [List.forall_mem_cons] at hq
    exact ⟨⟨hg.1, hq.1⟩, ih hg.2 hq.2⟩

theorem next_induction {P : σ → Prop} {s : σ} {i : ι} (hs : P s)
    (hstep : ∀ s', step s i = some s' → P s') : P (next step s i) := by
  unfold next
  cases h : step s i with
  | none => exact hs
  | some s' => exact hstep s' h

/-- What the start satisfies and every guarded step preserves holds after a guarded run. -/
theorem Guarded.invariant {ok : σ → ι → Prop} {P : σ → Prop}
    (hstep : ∀ s i s', P s → ok s i → step s i = some s' → P s') {s : σ} {is : List ι}
    (hg : Guarded step ok s is) (hs : P s) : P (run step s is) := by
  induction is generalizing s with
  | nil => exact hs
  | cons i is ih => exact ih hg.2 (next_induction hs fun s' h => hstep s i s' hs hg.1 h)

theorem run_invariant {P : σ → Prop} (hstep : ∀ s i s', P s → step s i = some s' → P s')
    {s : σ} (hs : P s) (is : List ι) : P (run step s is) := by
  have hall : Guarded step (fun _ _ => True) s is := .of_forall (fun _ _ => trivial) s is
  exact hall.invariant (fun s i s' h _ => hstep s i s' h) hs

/-! ### Machines that answer -/

variable {τ ο : Type}

/-- The last state and the answers to a list of inputs. -/
def respond (answer : σ → ι → σ × ο) : σ → List ι → σ × List ο
  | s, [] => (s, [])
  | s, i :: is =>
    ((respond answer (answer s i).1 is).1, (answer s i).2 :: (respond answer (answer s i).1 is).2)

/-- Two machines in related states give the same answers as long as each input of the list
is answered alike and leads to related states. -/
theorem respond_bisim {answer : σ → ι → σ × ο} {answer' : τ → ι → τ × ο} {R : σ → τ → Prop}
    {ok : ι → Prop}
    (hstep : ∀ s t i, R s t → ok i →
      (answer s i).2 = (answer' t i).2 ∧ R (answer s i).1 (answer' t i).1)
    {s : σ} {t : τ} (hR : R s t) {is : List ι} (his : ∀ i ∈ is, ok i) :
    (respond answer s is).2 = (respond answer' t is).2 ∧
      R (respond answer s is).1 (respond answer' t is).1 := by
  induction is generalizing s t with
  | nil => exact ⟨rfl, hR⟩
  | cons i is ih =>
    rw [List.forall_mem_cons] at his
    obtain ⟨hanswer, hnext⟩ := hstep s t i hR his.1
    obtain ⟨hrest, hlast⟩ := ih hnext his.2
    exact ⟨by rw [respond, respond, hanswer, hrest], hlast⟩

end GhostBazaar.Transition
