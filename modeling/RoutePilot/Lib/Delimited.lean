/-
  Codes that show their own end.

  The code of a value is read off the front of a text, as long as what follows
  it is something that may follow a code (`stop`): no other value has a code
  that the text begins with (`Delimited`).  A token ends where the first letter
  outside its alphabet stands, and a bracketed list of such codes is again one.
-/
import Mathlib.Data.List.Basic

namespace Lib

variable {α β τ : Type}

/-- The code of `a`, and what follows it, are determined by the text they make. -/
def Delimited (code : α → List τ) (stop : List τ → Prop) (a : α) : Prop :=
  ∀ (b : α) (rest rest' : List τ), stop rest → stop rest' → code a ++ rest = code b ++ rest' → a = b ∧ rest = rest'

/-- Two tokens over one alphabet, each followed by something outside it. -/
theorem token_append_inj {P : τ → Prop} {token token' rest rest' : List τ} (h : ∀ c ∈ token, P c)
    (h' : ∀ c ∈ token', P c) (hrest : ∀ c ∈ rest.head?, ¬ P c) (hrest' : ∀ c ∈ rest'.head?, ¬ P c)
    (heq : token ++ rest = token' ++ rest') : token = token' ∧ rest = rest' := by
  induction token generalizing token' with
  | nil =>
    cases token' with
    | nil => exact ⟨rfl, heq⟩
    | cons d token' =>
      subst heq
      exact absurd (h' d List.mem_cons_self) (hrest d rfl)
  | cons c token ih =>
    cases token' with
    | nil =>
      have heq' : rest' = c :: (token ++ rest) := heq.symm
      subst heq'
      exact absurd (h c List.mem_cons_self) (hrest' c rfl)
    | cons d token' =>
      obtain ⟨hcd, heq'⟩ := List.cons.inj heq
      have hih := ih (fun c hc => h c (List.mem_cons_of_mem _ hc)) (fun c hc => h' c (List.mem_cons_of_mem _ hc)) heq'
      exact ⟨by rw [hcd, hih.1], hih.2⟩

/-- A code that may be followed by anything, and then a mark and a second code. -/
theorem Delimited.pair {code : α → List τ} {code' : β → List τ} {stop : List τ → Prop} {mark : τ} {a : α} {b : β}
    (ha : Delimited code (fun _ => True) a) (hb : Delimited code' stop b) :
    Delimited (fun p : α × β => code p.1 ++ mark :: code' p.2) stop (a, b) := by
  rintro ⟨a', b'⟩ rest rest' hrest hrest' heq
  simp only [List.append_assoc, List.cons_append] at heq
  obtain ⟨haa, htail⟩ := ha a' _ _ trivial trivial heq
  obtain ⟨hbb, hrests⟩ := hb b' rest rest' hrest hrest' (List.cons.inj htail).2
  exact ⟨by rw [haa, hbb], hrests⟩

section
variable {code : α → List τ} {stop : List τ → Prop} {mark close : τ}

/-- Codes, each after a mark, up to a closing sign. -/
theorem Delimited.marked (hmark : ∀ rest, stop (mark :: rest)) (hclose : ∀ rest, stop (close :: rest))
    (hne : mark ≠ close) {as bs : List α} {rest rest' : List τ} (has : ∀ a ∈ as, Delimited code stop a)
    (heq : (as.flatMap fun a => mark :: code a) ++ close :: rest = (bs.flatMap fun b => mark :: code b) ++
      close :: rest') :
    as = bs ∧ rest = rest' := by
  -- what follows an element is the mark of the next one or the closing sign
  have hstop : ∀ (cs : List α) (r : List τ), stop ((cs.flatMap fun c => mark :: code c) ++ close :: r) := by
    intro cs r
    cases cs with
    | nil => exact hclose r
    | cons c cs =>
      simp only [List.flatMap_cons, List.cons_append]
      exact hmark _
  induction as generalizing bs with
  | nil =>
    cases bs with
    | nil => exact ⟨rfl, (List.cons.inj heq).2⟩
    | cons b bs =>
      simp only [List.flatMap_cons, List.flatMap_nil, List.nil_append, List.cons_append] at heq
      exact absurd (List.cons.inj heq).1.symm hne
  | cons a as ih =>
    cases bs with
    | nil =>
      simp only [List.flatMap_cons, List.flatMap_nil, List.nil_append, List.cons_append] at heq
      exact absurd (List.cons.inj heq).1 hne
    | cons b bs =>
      simp only [List.flatMap_cons, List.cons_append, List.append_assoc] at heq
      obtain ⟨hab, htail⟩ := has a List.mem_cons_self b _ _ (hstop as rest) (hstop bs rest') (List.cons.inj heq).2
      obtain ⟨habs, hrests⟩ := ih (fun a ha => has a (List.mem_cons_of_mem _ ha)) htail
      exact ⟨by rw [hab, habs], hrests⟩

/-- The codes of a list with a mark between each two of them. -/
def separated (code : α → List τ) (mark : τ) : List α → List τ
  | [] => []
  | a :: as => code a ++ as.flatMap fun b => mark :: code b

/-- A separated list up to a closing sign that no code begins with. -/
theorem Delimited.separated (hmark : ∀ rest, stop (mark :: rest)) (hclose : ∀ rest, stop (close :: rest))
    (hne : mark ≠ close) (hfirst : ∀ a rest rest', code a ++ rest ≠ close :: rest') {as bs : List α}
    {rest rest' : List τ} (has : ∀ a ∈ as, Delimited code stop a)
    (heq : separated code mark as ++ close :: rest = separated code mark bs ++ close :: rest') :
    as = bs ∧ rest = rest' := by
  cases as with
  | nil =>
    cases bs with
    | nil => exact ⟨rfl, (List.cons.inj heq).2⟩
    | cons b bs =>
      simp only [Lib.separated, List.nil_append, List.append_assoc] at heq
      exact absurd heq.symm (hfirst b _ _)
  | cons a as =>
    cases bs with
    | nil =>
      simp only [Lib.separated, List.nil_append, List.append_assoc] at heq
      exact absurd heq (hfirst a _ _)
    | cons b bs =>
      -- with a mark before their first element both are marked lists
      have hmarked : ((a :: as).flatMap fun a => mark :: code a) ++ close :: rest =
          ((b :: bs).flatMap fun b => mark :: code b) ++ close :: rest' := by
        simpa [Lib.separated] using heq
      exact Delimited.marked hmark hclose hne has hmarked

end

end Lib
