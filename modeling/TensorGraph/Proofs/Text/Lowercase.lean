import Mathlib
import TensorGraph.Text.Lowercase

/-!
# Lower-cased texts

Lower-casing leaves no character behind that it would change, so doing it twice is doing it once.
It is not a map of characters, since the form of a sigma depends on its neighbours. But a neighbour
counts only as cased, ignorable or neither, and an ASCII letter is cased in both its cases. So
writing ASCII letters in the other case makes no difference.
-/

namespace TensorGraph.Proofs
open TensorGraph.Text

/-! ### Characters that are lower-case -/

/-- Lower-casing keeps the character wherever it stands. -/
def Settled (c : Char) : Prop := lowerChar c = [c] ∧ c ≠ 'Σ'

/-- No target of a run is covered by a run. In runs that go in steps of two the letters of the two
cases alternate, and parity tells them apart. -/
lemma targets_apart : ∀ run ∈ caseRuns, ∀ other ∈ caseRuns,
    run.target + (run.last - run.first) < other.first ∨ other.last < run.target ∨
      other.step = 2 ∧ (run.step = 2 ∨ run.first = run.last) ∧
        (run.target + other.first) % 2 = 1 := by
  decide +kernel

/-- All targets are characters, and none is the dotted capital I. -/
lemma targets_valid : ∀ run ∈ caseRuns,
    (run.target + (run.last - run.first) < 0xd800 ∨
      0xdfff < run.target ∧ run.target + (run.last - run.first) < 0x110000) ∧
    (run.target + (run.last - run.first) < 'İ'.toNat ∨ 'İ'.toNat < run.target) := by
  decide +kernel

lemma covers_iff_step (run : CaseRun) (code : Nat) : run.covers code = true ↔
    run.first ≤ code ∧ code ≤ run.last ∧ (code - run.first) % run.step = 0 := by
  simp [CaseRun.covers, and_assoc]

lemma not_covers_target {run other : CaseRun} (hrun : run ∈ caseRuns) (hother : other ∈ caseRuns)
    {code : Nat} (hcovers : run.covers code = true) :
    other.covers (run.target + (code - run.first)) = false := by
  rw [covers_iff_step] at hcovers
  obtain ⟨hfirst, hlast, hstep⟩ := hcovers
  rw [← Bool.not_eq_true, covers_iff_step]
  rintro ⟨hfirst', hlast', hstep'⟩
  rcases targets_apart run hrun other hother with hbelow | habove | ⟨htwo, hsteps, hparity⟩
  · omega
  · omega
  · rw [htwo] at hstep'
    rcases hsteps with htwo' | hsingle
    · rw [htwo'] at hstep
      omega
    · omega

lemma toNat_target {run : CaseRun} (hrun : run ∈ caseRuns) {code : Nat}
    (hcovers : run.covers code = true) :
    (Char.ofNat (run.target + (code - run.first))).toNat = run.target + (code - run.first) := by
  obtain ⟨hvalid, -⟩ := targets_valid run hrun
  rw [covers_iff_step] at hcovers
  rw [Char.toNat_ofNat, if_pos]
  unfold Nat.isValidChar
  omega

lemma lowerChar_of_find? {c : Char} {run : CaseRun} (hc : c ≠ 'İ')
    (hrun : caseRuns.find? (·.covers c.toNat) = some run) :
    lowerChar c = [Char.ofNat (run.target + (c.toNat - run.first))] := by
  simp only [lowerChar, if_neg hc, hrun]

lemma lowerChar_of_not_covers {c : Char} (hc : c ≠ 'İ')
    (h : ∀ run ∈ caseRuns, run.covers c.toNat = false) : lowerChar c = [c] := by
  have hnone : caseRuns.find? (·.covers c.toNat) = none := by
    simpa using h
  simp only [lowerChar, if_neg hc, hnone]

lemma settled_of_not_covers {c : Char} (hdotted : c ≠ 'İ')
    (h : ∀ run ∈ caseRuns, run.covers c.toNat = false) : Settled c := by
  refine ⟨lowerChar_of_not_covers hdotted h, ?_⟩
  rintro rfl
  revert h
  decide +kernel

lemma settled_of_mem_lowerChar {c x : Char} (h : x ∈ lowerChar c) : Settled x := by
  by_cases hdotted : c = 'İ'
  · subst hdotted
    rw [lowerChar, if_pos rfl, List.mem_cons, List.mem_singleton] at h
    rcases h with rfl | rfl
    · exact settled_of_not_covers (by decide) (by decide +kernel)
    · exact settled_of_not_covers (by decide) (by decide +kernel)
  cases hrun : caseRuns.find? (·.covers c.toNat) with
  | none =>
    have huncovered : ∀ run ∈ caseRuns, run.covers c.toNat = false := by simpa using hrun
    rw [lowerChar_of_not_covers hdotted huncovered, List.mem_singleton] at h
    exact h ▸ settled_of_not_covers hdotted huncovered
  | some run =>
    have hmem : run ∈ caseRuns := List.mem_of_find?_eq_some hrun
    have hcovers : run.covers c.toNat = true := by simpa using List.find?_some hrun
    rw [lowerChar_of_find? hdotted hrun, List.mem_singleton] at h
    have hx : x.toNat = run.target + (c.toNat - run.first) := by rw [h, toNat_target hmem hcovers]
    apply settled_of_not_covers
    · rintro rfl
      have happart := (targets_valid run hmem).2
      rw [covers_iff_step] at hcovers
      omega
    · intro other hother
      rw [hx]
      exact not_covers_target hmem hother hcovers

/-! ### Twice is once -/

/-- What becomes of a character between its neighbours, those before it nearest first. -/
def lowerAt (before : List Char) (c : Char) (after : List Char) : List Char :=
  if c = 'Σ' then [if startsCased before && !startsCased after then 'ς' else 'σ'] else lowerChar c

lemma lowerFrom_cons (before : List Char) (c : Char) (after : List Char) :
    lowerFrom before (c :: after) = lowerAt before c after ++ lowerFrom (c :: before) after := by
  unfold lowerAt
  by_cases hc : c = 'Σ'
  · subst hc
    rw [lowerFrom, if_pos rfl, List.singleton_append]
  · rw [lowerFrom, if_neg hc]
    exact hc

lemma settled_of_mem_lowerAt {before after : List Char} {c x : Char}
    (h : x ∈ lowerAt before c after) : Settled x := by
  unfold lowerAt at h
  split at h
  · rw [List.mem_singleton] at h
    subst h
    split
    · exact settled_of_not_covers (by decide) (by decide +kernel)
    · exact settled_of_not_covers (by decide) (by decide +kernel)
  · exact settled_of_mem_lowerChar h

lemma settled_of_mem_lowerFrom {before cs : List Char} {x : Char} (h : x ∈ lowerFrom before cs) :
    Settled x := by
  induction cs generalizing before with
  | nil => cases h
  | cons c after ih =>
    rw [lowerFrom_cons, List.mem_append] at h
    exact h.elim settled_of_mem_lowerAt ih

lemma lowerFrom_of_settled {before cs : List Char} (h : ∀ c ∈ cs, Settled c) :
    lowerFrom before cs = cs := by
  induction cs generalizing before with
  | nil => rfl
  | cons c after ih =>
    rw [List.forall_mem_cons] at h
    obtain ⟨⟨hlower, hsigma⟩, hafter⟩ := h
    rw [lowerFrom_cons, lowerAt, if_neg hsigma, hlower, ih hafter, List.singleton_append]

theorem lowercase_lowercase (s : String) : lowercase (lowercase s) = lowercase s := by
  rw [lowercase, lowerFrom_of_settled, String.ofList_toList]
  intro c hc
  rw [lowercase, String.toList_ofList] at hc
  exact settled_of_mem_lowerFrom hc

/-! ### The case of ASCII letters -/

/-- The characters are equal, or the same ASCII letter in different case. -/
def SameLetter (a b : Char) : Prop := a.toLower = b.toLower

/-- The texts differ at most in the case of ASCII letters. -/
def SameSpelling (s t : String) : Prop := List.Forall₂ SameLetter s.toList t.toList

instance : DecidableRel SameLetter := fun a b => inferInstanceAs (Decidable (a.toLower = b.toLower))

instance (s t : String) : Decidable (SameSpelling s t) :=
  inferInstanceAs (Decidable (List.Forall₂ SameLetter s.toList t.toList))

/-- All that lower-casing asks of a character. -/
def caseTraits (c : Char) : List Char × Bool × Bool × Bool :=
  (lowerChar c, isCased c, isCaseIgnorable c, c = 'Σ')

lemma caseTraits_capital : ∀ code ∈ List.range' 'A'.toNat 26,
    caseTraits (Char.ofNat code).toLower = caseTraits (Char.ofNat code) := by
  decide +kernel

lemma caseTraits_toLower (c : Char) : caseTraits c.toLower = caseTraits c := by
  by_cases hcapital : c.val ≥ 'A'.val ∧ c.val ≤ 'Z'.val
  · have hrange : c.toNat ∈ List.range' 'A'.toNat 26 := by
      rw [List.mem_range'_1]
      obtain ⟨hfirst, hlast⟩ := hcapital
      rw [ge_iff_le, UInt32.le_iff_toNat_le] at hfirst
      rw [UInt32.le_iff_toNat_le] at hlast
      exact ⟨hfirst, Nat.lt_succ_of_le hlast⟩
    have hsame := caseTraits_capital c.toNat hrange
    rwa [Char.ofNat_toNat] at hsame
  · rw [Char.toLower, dif_neg hcapital]

lemma caseTraits_eq {a b : Char} (h : SameLetter a b) : caseTraits a = caseTraits b := by
  rw [← caseTraits_toLower a, ← caseTraits_toLower b, h]

lemma startsCased_eq {cs ds : List Char} (h : List.Forall₂ SameLetter cs ds) :
    startsCased cs = startsCased ds := by
  induction h with
  | nil => rfl
  | @cons a b cs ds hab _ ih =>
    have htraits := caseTraits_eq hab
    simp only [caseTraits, Prod.mk.injEq] at htraits
    obtain ⟨-, hcased, hignorable, -⟩ := htraits
    unfold startsCased at ih ⊢
    rw [List.dropWhile_cons, List.dropWhile_cons, hignorable]
    by_cases hb : isCaseIgnorable b = true
    · simpa only [if_pos hb] using ih
    · simpa only [if_neg hb] using hcased

lemma lowerFrom_eq {before before' cs ds : List Char}
    (hbefore : List.Forall₂ SameLetter before before') (h : List.Forall₂ SameLetter cs ds) :
    lowerFrom before cs = lowerFrom before' ds := by
  induction h generalizing before before' with
  | nil => rfl
  | cons hab hafter ih =>
    have htraits := caseTraits_eq hab
    simp only [caseTraits, Prod.mk.injEq, decide_eq_decide] at htraits
    obtain ⟨hlower, -, -, hsigma⟩ := htraits
    rw [lowerFrom_cons, lowerFrom_cons, lowerAt, lowerAt, hlower, startsCased_eq hbefore,
      startsCased_eq hafter, ih (.cons hab hbefore)]
    simp only [hsigma]

theorem lowercase_eq_of_sameSpelling {s t : String} (h : SameSpelling s t) :
    lowercase s = lowercase t := by
  rw [lowercase, lowercase, lowerFrom_eq .nil h]

example : lowercase "aΣ" = "aς" ∧ lowercase "AΣB" = "aσb" ∧ lowercase "AΣb" = "aσb" := by
  decide +kernel

end TensorGraph.Proofs
