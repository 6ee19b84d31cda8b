import Mathlib
import TensorGraph.Proofs.Graph.AttributeNames

/-!
# Settings in the order of insertion

Calls that set attributes make a map from names to settings that keeps the order of insertion. A
name stands where its first call put it, and its setting is that of its last call. So the settings
tell the first and the last calls of the names, and nothing else of the calls.
-/

namespace TensorGraph.Proofs
open TensorGraph.Attribute TensorGraph.Request

/-! ### First occurrences -/

lemma eraseDups_concat (l : List String) (a : String) :
    (l ++ [a]).eraseDups = if a ∈ l then l.eraseDups else l.eraseDups ++ [a] := by
  rw [List.eraseDups_append]
  by_cases h : a ∈ l
  · have hremoved : [a].removeAll l = [] := by simp [List.removeAll, h]
    rw [if_pos h, hremoved, List.eraseDups_nil, List.append_nil]
  · have hkept : [a].removeAll l = [a] := by simp [List.removeAll, h]
    rw [if_neg h, hkept]
    rfl

/-- What is left stands in the order of the first occurrences. -/
lemma pairwise_idxOf_eraseDups (l : List String) :
    l.eraseDups.Pairwise fun a b => l.idxOf a < l.idxOf b := by
  induction l using List.reverseRecOn with
  | nil => exact .nil
  | append_singleton l a ih =>
    have hbefore : l.eraseDups.Pairwise fun b c => (l ++ [a]).idxOf b < (l ++ [a]).idxOf c := by
      refine ih.imp_of_mem fun hb hc hlt => ?_
      rwa [List.idxOf_append_of_mem (List.mem_eraseDups.1 hb),
        List.idxOf_append_of_mem (List.mem_eraseDups.1 hc)]
    rw [eraseDups_concat]
    split
    · exact hbefore
    · rename_i hnew
      refine List.pairwise_append.2 ⟨hbefore, List.pairwise_singleton _ a, fun b hb c hc => ?_⟩
      have hb := List.mem_eraseDups.1 hb
      rw [List.mem_singleton.1 hc, List.idxOf_append_of_mem hb, List.idxOf_append_of_notMem hnew]
      exact Nat.lt_add_right _ (List.idxOf_lt_length_of_mem hb)

section Calls

variable {calls calls' : List SetCall} {settings settings' : List (String × Setting)}

/-! ### Last calls -/

/-- The last call that sets the attribute gives it the setting. -/
def LastSetting (calls : List SetCall) (attr : String) (setting : Setting) : Prop :=
  ∃ before call later, calls = before ++ call :: later ∧ call.entry = (attr, setting) ∧
    ∀ c ∈ later, c.attr ≠ attr

lemma lastSetting_concat (calls : List SetCall) (call : SetCall) (attr : String)
    (setting : Setting) : LastSetting (calls ++ [call]) attr setting ↔
      call.entry = (attr, setting) ∨ call.attr ≠ attr ∧ LastSetting calls attr setting := by
  constructor
  · rintro ⟨before, last, later, hcalls, hlast, hlater⟩
    rcases later.eq_nil_or_concat' with rfl | ⟨later, final, rfl⟩
    · obtain ⟨-, hcall⟩ := List.append_inj' hcalls rfl
      cases hcall
      exact .inl hlast
    · rw [← List.cons_append, ← List.append_assoc] at hcalls
      obtain ⟨rfl, hcall⟩ := List.append_inj' hcalls rfl
      cases hcall
      rw [List.forall_mem_append] at hlater
      exact .inr ⟨hlater.2 call List.mem_cons_self, before, last, later, rfl, hlast, hlater.1⟩
  · rintro (hcall | ⟨hne, before, last, later, rfl, hlast, hlater⟩)
    · exact ⟨calls, call, [], rfl, hcall, List.forall_mem_nil _⟩
    · refine ⟨before, last, later ++ [call], by simp, hlast, ?_⟩
      exact List.forall_mem_append.2 ⟨hlater, List.forall_mem_singleton.2 hne⟩

/-- If no name is there twice, nothing is left of the setting that is replaced. -/
lemma mem_setIn (h : (settings.map Prod.fst).Nodup) (attr : String) (setting : Setting)
    (entry : String × Setting) : entry ∈ setIn attr setting settings ↔
      (attr, setting) = entry ∨ attr ≠ entry.1 ∧ entry ∈ settings := by
  induction settings with
  | nil => simp [setIn, eq_comm]
  | cons first rest ih =>
    rw [List.map_cons, List.nodup_cons] at h
    rw [setIn]
    split
    · rename_i hfirst
      subst hfirst
      have hrest : entry ∈ rest → first.1 ≠ entry.1 := fun hmem heq =>
        h.1 (heq ▸ List.mem_map_of_mem hmem)
      rw [List.mem_cons, List.mem_cons]
      refine or_congr eq_comm ⟨fun hmem => ⟨hrest hmem, .inr hmem⟩, fun hother => ?_⟩
      exact hother.2.resolve_left fun heq => hother.1 (congrArg Prod.fst heq.symm)
    · rename_i hfirst
      rw [List.mem_cons, ih h.2, List.mem_cons]
      constructor
      · rintro (rfl | hnew | ⟨hne, hmem⟩)
        · exact .inr ⟨Ne.symm hfirst, .inl rfl⟩
        · exact .inl hnew
        · exact .inr ⟨hne, .inr hmem⟩
      · rintro (hnew | ⟨hne, rfl | hmem⟩)
        · exact .inr (.inl hnew)
        · exact .inl rfl
        · exact .inr (.inr ⟨hne, hmem⟩)

/-! ### The map of the calls -/

/-- The names are distinct and stand in the order of their first calls, and each has the setting of
its last call. -/
structure InsertionOrdered (calls : List SetCall) (settings : List (String × Setting)) :
    Prop where
  distinct : (settings.map Prod.fst).Nodup
  names : settings.map Prod.fst = (calls.map SetCall.attr).eraseDups
  order : (settings.map Prod.fst).Pairwise fun a b =>
    (calls.map SetCall.attr).idxOf a < (calls.map SetCall.attr).idxOf b
  last : ∀ attr setting, (attr, setting) ∈ settings ↔ LastSetting calls attr setting

/-- The names occur for the first time in one order, and the last calls give the same settings. -/
structure SameMap (calls calls' : List SetCall) : Prop where
  firsts : (calls.map SetCall.attr).eraseDups = (calls'.map SetCall.attr).eraseDups
  lasts : ∀ attr setting, LastSetting calls attr setting ↔ LastSetting calls' attr setting

lemma insertionOrdered_nil : InsertionOrdered [] [] :=
  ⟨List.nodup_nil, rfl, .nil, by simp [LastSetting]⟩

lemma InsertionOrdered.concat (h : InsertionOrdered calls settings) (call : SetCall) :
    InsertionOrdered (calls ++ [call]) (setIn call.attr call.entry.2 settings) := by
  have hnames : (setIn call.attr call.entry.2 settings).map Prod.fst =
      ((calls ++ [call]).map SetCall.attr).eraseDups := by
    rw [names_setIn, h.names, List.map_append, List.map_singleton, eraseDups_concat]
    simp only [List.mem_eraseDups]
  constructor
  case distinct => exact nodup_setIn h.distinct
  case names => exact hnames
  case order => exact hnames ▸ pairwise_idxOf_eraseDups _
  case last =>
    intro attr setting
    rw [mem_setIn h.distinct, h.last, lastSetting_concat]
    rfl

lemma settings_after (r : Request) (call : SetCall) :
    (r.after call).settings = setIn call.attr call.entry.2 r.settings := by
  cases call <;> rfl

lemma insertionOrdered_afterAll {r : Request} (h : r.settings = []) (calls : List SetCall) :
    InsertionOrdered calls (r.afterAll calls).settings := by
  induction calls using List.reverseRecOn with
  | nil =>
    rw [afterAll, List.foldl_nil, h]
    exact insertionOrdered_nil
  | append_singleton calls call ih =>
    rw [afterAll, List.foldl_concat, settings_after]
    exact ih.concat call

/-- The calls change nothing but the settings. -/
lemma afterAll_eq (r : Request) (calls : List SetCall) :
    r.afterAll calls = { r with settings := (r.afterAll calls).settings } := by
  induction calls generalizing r with
  | nil => rfl
  | cons call calls ih =>
    have hcall : r.after call = { r with settings := (r.after call).settings } := by
      cases call <;> rfl
    rw [afterAll, List.foldl_cons, ← afterAll, ih, hcall]

lemma InsertionOrdered.eq_iff (h : InsertionOrdered calls settings)
    (h' : InsertionOrdered calls' settings') : settings = settings' ↔ SameMap calls calls' := by
  constructor
  · rintro rfl
    exact ⟨h.names.symm.trans h'.names, fun attr setting => (h.last _ _).symm.trans (h'.last _ _)⟩
  · intro hsame
    have hnames : settings.map Prod.fst = settings'.map Prod.fst := by
      rw [h.names, hsame.firsts, ← h'.names]
    have horder := h.order
    have horder' := h.order
    rw [hnames] at horder'
    rw [List.pairwise_map] at horder horder'
    have hmem : ∀ entry, entry ∈ settings ↔ entry ∈ settings' := fun entry =>
      (h.last _ _).trans ((hsame.lasts _ _).trans (h'.last _ _).symm)
    have hperm : settings.Perm settings' :=
      (List.perm_ext_iff_of_nodup (.of_map _ h.distinct) (.of_map _ h'.distinct)).2 hmem
    exact hperm.eq_of_pairwise (fun a b _ _ hab hba => absurd hba hab.asymm) horder horder'

end Calls

/-- Calls on a request for a type make a map in the order of insertion and change nothing else. Two
sequences of calls make the same map exactly if the order of first occurrences and the last setting
of each name are the same. -/
theorem settings_insertionOrdered (opType : String) (calls : List SetCall) :
    ∃ settings, Request.afterAll { opType } calls = { opType, settings } ∧
      InsertionOrdered calls settings ∧
      ∀ opType' calls', (Request.afterAll { opType := opType' } calls').settings = settings ↔
        SameMap calls' calls := by
  have hordered := insertionOrdered_afterAll (r := { opType }) rfl calls
  refine ⟨_, afterAll_eq _ calls, hordered, fun opType' calls' => ?_⟩
  exact (insertionOrdered_afterAll rfl calls').eq_iff hordered

/-- The second setting of a name replaces the first in its place. -/
example :
    (Request.afterAll { opType := "Cast" } [.untyped "SrcT" (.type .int32),
      .typed "Truncate" (.integer 0) .int32, .typed "SrcT" (.integer 9) .type]).settings =
      [("SrcT", ⟨.integer 9, some .type⟩), ("Truncate", ⟨.integer 0, some .int32⟩)] := by
  decide

end TensorGraph.Proofs
