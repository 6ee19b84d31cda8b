import Mathlib
import TensorGraph.Proofs.Events
import TensorGraph.Proofs.Graph.Verdict

/-!
# The log of a request

A request whose operation type is unknown or whose name is taken leaves no trace in the log. Any
other request starts a draft, and the lines of the log tell how far it got: which encodings were
decided, which defaults were left to the runtime, and, last of all, whether a node was added or
dropped.
-/

namespace TensorGraph.Proofs
open TensorGraph.Graph TensorGraph.Draft TensorGraph.Attribute

/-! ### Events of a draft -/

/-- What is logged for a setting, whether or not it can be encoded. -/
def settingEvents (s : Signature) (setting : String × Setting) : List Event :=
  match s.attribute? setting.1 with
  | none => []
  | some d => resolvedEvents setting.1 setting.2 d.kind

def lacksEncoding : Except EncodeError Encoded → Bool
  | .error (.unresolved _) | .error (.unsupported ..) => true
  | _ => false

lemma lacksEncoding_iff {d : Declaration} {value : Value} (h : d.default? = some value) :
    lacksEncoding (outcome (encode d.name ⟨value, none⟩ d.kind)) = true ↔ LeftToRuntime d := by
  simp only [LeftToRuntime, h, Option.some.injEq, exists_eq_left']
  cases outcome (encode d.name ⟨value, none⟩ d.kind) with
  | ok encoded => simp [lacksEncoding]
  | error e => cases e <;> simp [lacksEncoding]

instance (d : Declaration) : Decidable (LeftToRuntime d) :=
  match h : d.default? with
  | none => .isFalse fun ⟨_, hdefault, _⟩ => by
    rw [h] at hdefault
    cases hdefault
  | some _ => decidable_of_iff _ (lacksEncoding_iff h)

/-- What is logged for a declaration whose attribute is not set, whether or not it has a default. -/
def defaultEvents (op : String) (d : Declaration) : List Event :=
  (d.default?.elim [] fun value => resolvedEvents d.name ⟨value, none⟩ d.kind) ++
    if LeftToRuntime d then [.leftToRuntime d.name op] else []

lemma events_encodeSetting (s : Signature) (op : String) (setting : String × Setting) :
    events (encodeSetting s op setting.1 setting.2) = settingEvents s setting := by
  unfold encodeSetting settingEvents
  cases s.attribute? setting.1 with
  | none => rfl
  | some d =>
    rw [events_bind, events_adapt, events_encode]
    cases outcome ((encode setting.1 setting.2 d.kind).adapt (GraphError.attribute op)) <;> simp

section Defaults

variable {op : String} {d : Declaration} {l : Attributes}

lemma events_setDefaults_of_stored (rest : List Declaration)
    (h : (l.lookup d.name).isSome = true) :
    events (setDefaults op (d :: rest) l) = events (setDefaults op rest l) := by
  rw [setDefaults, if_pos h]

lemma defaultEvents_of_default {value : Value} (h : d.default? = some value) :
    defaultEvents op d = resolvedEvents d.name ⟨value, none⟩ d.kind ++
      if lacksEncoding (outcome (encode d.name ⟨value, none⟩ d.kind)) then
        [.leftToRuntime d.name op]
      else [] := by
  simp only [defaultEvents, h, Option.elim_some, lacksEncoding_iff h]

lemma events_setDefaults_of_default (rest : List Declaration) (hunset : l.lookup d.name = none)
    {value : Value} (hdefault : d.default? = some value) :
    events (setDefaults op (d :: rest) l) = defaultEvents op d ++
      match outcome (encode d.name ⟨value, none⟩ d.kind) with
      | .error (.mismatch ..) => []
      | _ => events (setDefaults op rest (addMissing l (defaultEntry d))) := by
  have hencode : outcome (encode d.name ⟨value, none⟩ d.kind) =
    (encode d.name ⟨value, none⟩ d.kind).run.value := rfl
  have hlog : resolvedEvents d.name ⟨value, none⟩ d.kind =
    (encode d.name ⟨value, none⟩ d.kind).run.log := (events_encode _ _ _).symm
  have hnew : ¬(l.lookup d.name).isSome = true := by simp [hunset]
  rw [defaultEvents_of_default hdefault]
  simp only [setDefaults, if_neg hnew, hdefault, defaultEntry, events_bind, events_liftM,
    outcome_liftM, hencode, hlog, Option.bind_some]
  cases (encode d.name ⟨value, none⟩ d.kind).run.value with
  | ok encoded => simp [lacksEncoding, Except.toOption, addMissing, hunset]
  | error e =>
    cases e <;> simp [lacksEncoding, Except.toOption, addMissing, events_bind, Logged.emit]

lemma events_setDefaults_of_offence (rest : List Declaration) {e : GraphError}
    (h : DefaultOffence op l d e) : events (setDefaults op (d :: rest) l) = defaultEvents op d := by
  cases h with
  | missing absent undefaulted =>
    have hkept : ¬LeftToRuntime d := by
      rintro ⟨value, hdefault, -⟩
      rw [undefaulted] at hdefault
      cases hdefault
    simp only [setDefaults, absent, undefaulted, defaultEvents, if_neg hkept]
    rfl
  | mismatch absent value default attr expected found refused =>
    rw [events_setDefaults_of_default rest absent default, refused, List.append_nil]

lemma events_setDefaults_of_no_offence (rest : List Declaration) (hunset : l.lookup d.name = none)
    (h : ¬∃ e, DefaultOffence op l d e) : events (setDefaults op (d :: rest) l) =
      defaultEvents op d ++ events (setDefaults op rest (addMissing l (defaultEntry d))) := by
  cases hdefault : d.default? with
  | none => exact absurd ⟨_, .missing hunset hdefault⟩ h
  | some value =>
    rw [events_setDefaults_of_default rest hunset hdefault]
    split
    · rename_i attr expected found hrefused
      exact absurd ⟨_, .mismatch hunset value hdefault attr expected found hrefused⟩ h
    · rfl

/-- The declarations whose attributes are not set, in order. -/
def unset (l : Attributes) (declarations : List Declaration) : List Declaration :=
  declarations.filter fun d => (l.lookup d.name).isNone

/-- Defaults are logged up to the first that offends. Those that are set on the way make no
difference to the later ones, whose names are different. -/
theorem events_setDefaults {declarations reached : List Declaration}
    (hnodup : (declarations.map (·.name)).Nodup)
    (h : Through (fun d => ∃ e, DefaultOffence op l d e) (unset l declarations) reached) :
    events (setDefaults op declarations l) = reached.flatMap (defaultEvents op) := by
  induction declarations generalizing l reached with
  | nil =>
    cases h
    rw [setDefaults]
    exact events_pure l
  | cons d rest ih =>
    rw [List.map_cons, List.nodup_cons] at hnodup
    unfold unset at h
    cases hstored : l.lookup d.name with
    | some stored =>
      rw [List.filter_cons_of_neg (by simp [hstored])] at h
      rw [events_setDefaults_of_stored rest (by simp [hstored])]
      exact ih hnodup.2 h
    | none =>
      rw [List.filter_cons_of_pos (by simp [hstored])] at h
      cases h with
      | stop _ _ hoffends =>
        obtain ⟨e, he⟩ := hoffends
        rw [events_setDefaults_of_offence rest he, List.flatMap_singleton]
      | pass _ _ reached hclean later =>
        have hlookup : ∀ other ∈ rest,
            (addMissing l (defaultEntry d)).lookup other.name = l.lookup other.name := by
          intro other hother
          have hname : other.name ∉ [d].map (·.name) := by
            rw [List.map_singleton, List.mem_singleton]
            exact fun hsame => hnodup.1 (hsame ▸ List.mem_map_of_mem hother)
          simpa using lookup_addMissing_defaults l hname
        have hunset : unset (addMissing l (defaultEntry d)) rest =
            rest.filter fun d => (l.lookup d.name).isNone :=
          List.filter_congr fun other hother => by rw [hlookup other hother]
        have hlater : Through
            (fun other => ∃ e, DefaultOffence op (addMissing l (defaultEntry d)) other e)
            (unset (addMissing l (defaultEntry d)) rest) reached := by
          rw [hunset]
          refine later.congr fun other hother => exists_congr fun e => ?_
          have heq := hlookup other (List.mem_of_mem_filter hother)
          exact ⟨fun h => h.congr heq, fun h => h.congr heq.symm⟩
        rw [events_setDefaults_of_no_offence rest hstored hclean, List.flatMap_cons,
          ih hnodup.2 hlater]

end Defaults

/-! ### Lines -/

def traceLine (text : String) : String := "TRACE" ++ " " ++ text

def debugLine (text : String) : String := "DEBUG" ++ " " ++ text

def resolvedLine (attr : String) (encoding : Encoding) (rule : Rule) : String :=
  traceLine ("attribute \"" ++ attr ++ "\" encoded as " ++ encoding.name ++ " (" ++ rule.name ++ ")")

def runtimeLine (attr op : String) : String :=
  debugLine ("default of \"" ++ attr ++ "\" on \"" ++ op ++ "\" left to the runtime")

def addedLine (op opType : String) (inputs : Nat) : String :=
  debugLine ("add operation \"" ++ op ++ "\" (" ++ opType ++ ") with " ++ toString inputs ++ " inputs")

def droppedLine (op : String) : String :=
  debugLine ("dropping unfinished operation \"" ++ op ++ "\"")

/-- The lines for an attribute whose encoding is decided, if it is. -/
def resolvedLines (attr : String) (setting : Setting) (declared : Option Kind) : List String :=
  match resolve attr setting declared with
  | .ok (encoding, rule) => [resolvedLine attr encoding rule]
  | .error _ => []

def settingLines (s : Signature) (setting : String × Setting) : List String :=
  match s.attribute? setting.1 with
  | none => []
  | some d => resolvedLines setting.1 setting.2 d.kind

def defaultLines (op : String) (d : Declaration) : List String :=
  (d.default?.elim [] fun value => resolvedLines d.name ⟨value, none⟩ d.kind) ++
    if LeftToRuntime d then [runtimeLine d.name op] else []

lemma map_line_resolvedEvents (attr : String) (setting : Setting) (declared : Option Kind) :
    (resolvedEvents attr setting declared).map Event.line = resolvedLines attr setting declared := by
  unfold resolvedEvents resolvedLines
  cases resolve attr setting declared <;> rfl

lemma map_line_settingEvents (s : Signature) (setting : String × Setting) :
    (settingEvents s setting).map Event.line = settingLines s setting := by
  unfold settingEvents settingLines
  cases s.attribute? setting.1 with
  | none => rfl
  | some d => exact map_line_resolvedEvents _ _ _

lemma map_line_defaultEvents (op : String) (d : Declaration) :
    (defaultEvents op d).map Event.line = defaultLines op d := by
  unfold defaultEvents defaultLines
  rw [List.map_append]
  congr 1
  · cases d.default? with
    | none => rfl
    | some value => exact map_line_resolvedEvents _ _ _
  · split <;> rfl

/-- The line is about an attribute of the node: its encoding was decided, or its default was left to
the runtime. -/
inductive AboutAttribute (op : String) : String → Prop where
  | resolved (attr : String) (encoding : Encoding) (rule : Rule) :
    AboutAttribute op (resolvedLine attr encoding rule)
  | leftToRuntime (attr : String) : AboutAttribute op (runtimeLine attr op)

/-- The line tells that a node was added or dropped. -/
inductive Closing : String → Prop where
  | added (op opType : String) (inputs : Nat) : Closing (addedLine op opType inputs)
  | dropped (op : String) : Closing (droppedLine op)

section Start

/-- The text is what the line starts with. -/
def StartsWith (start line : String) : Prop := start.toList <+: line.toList

instance (start line : String) : Decidable (StartsWith start line) :=
  inferInstanceAs (Decidable (start.toList <+: line.toList))

lemma startsWith_append (start rest : String) : StartsWith start (start ++ rest) := by
  unfold StartsWith
  rw [String.toList_append]
  exact List.prefix_append _ _

lemma StartsWith.append {start line : String} (h : StartsWith start line) (rest : String) :
    StartsWith start (line ++ rest) := by
  unfold StartsWith
  rw [String.toList_append]
  exact h.trans (List.prefix_append _ _)

lemma StartsWith.behind {start line : String} (h : StartsWith start line) (before : String) :
    StartsWith (before ++ start) (before ++ line) := by
  unfold StartsWith
  rw [String.toList_append, String.toList_append]
  exact (List.prefix_append_right_inj _).2 h

/-- Lines are different if they start differently. -/
lemma ne_of_startsWith {start start' line line' : String} (h : StartsWith start line)
    (h' : StartsWith start' line') (hleft : ¬StartsWith start start')
    (hright : ¬StartsWith start' start) : line ≠ line' := by
  rintro rfl
  exact (List.prefix_or_prefix_of_prefix h h').elim hleft hright

lemma startsWith_addedLine (op opType : String) (inputs : Nat) :
    StartsWith ("DEBUG" ++ " " ++ "add operation \"") (addedLine op opType inputs) :=
  (((((startsWith_append _ op).append _).append _).append _).append _).append _ |>.behind _

lemma startsWith_droppedLine (op : String) :
    StartsWith ("DEBUG" ++ " " ++ "dropping unfinished operation \"") (droppedLine op) :=
  ((startsWith_append _ op).append _).behind _

lemma startsWith_resolvedLine (attr : String) (encoding : Encoding) (rule : Rule) :
    StartsWith ("TRACE" ++ " ") (resolvedLine attr encoding rule) :=
  startsWith_append _ _

lemma startsWith_runtimeLine (attr op : String) :
    StartsWith ("DEBUG" ++ " " ++ "default of \"") (runtimeLine attr op) :=
  ((((startsWith_append _ attr).append _).append _).append _).behind _

lemma addedLine_ne_droppedLine (op opType : String) (inputs : Nat) (other : String) :
    addedLine op opType inputs ≠ droppedLine other :=
  ne_of_startsWith (startsWith_addedLine op opType inputs) (startsWith_droppedLine other)
    (by decide +kernel) (by decide +kernel)

lemma AboutAttribute.start {op line : String} (h : AboutAttribute op line) :
    StartsWith ("TRACE" ++ " ") line ∨ StartsWith ("DEBUG" ++ " " ++ "default of \"") line := by
  cases h with
  | resolved attr encoding rule => exact .inl (startsWith_resolvedLine attr encoding rule)
  | leftToRuntime attr => exact .inr (startsWith_runtimeLine attr op)

lemma Closing.start {line : String} (h : Closing line) :
    StartsWith ("DEBUG" ++ " " ++ "add operation \"") line ∨
      StartsWith ("DEBUG" ++ " " ++ "dropping unfinished operation \"") line := by
  cases h with
  | added op opType inputs => exact .inl (startsWith_addedLine op opType inputs)
  | dropped op => exact .inr (startsWith_droppedLine op)

/-- What is said of an attribute is not mistaken for the end of a draft. -/
lemma AboutAttribute.not_closing {op line : String} (h : AboutAttribute op line) :
    ¬Closing line := by
  intro hclosing
  rcases h.start with habout | habout <;> rcases hclosing.start with hlast | hlast
  all_goals exact ne_of_startsWith habout hlast (by decide +kernel) (by decide +kernel) rfl

end Start

/-! ### Whole drafts -/

/-- The lines that are logged while a node is drafted. Nothing is logged before the settings, and a
draft that is given up behind them, over the length of a list, logs no defaults. -/
inductive Told (id : Nat) (s : Signature) (op : String) (r : Request) : List String → Prop where
  | unchecked (failed : ¬(MeetsArity s r ∧ Owned id r)) : Told id s op r []
  | settings (arity : MeetsArity s r) (owned : Owned id r)
    (stopped : ∀ given, List.Forall₂ (Encodes s) r.settings given →
      ¬LengthsFit given (measurements s r))
    (reached : List (String × Setting))
    (through : Through (fun setting => ∃ e, SettingOffence s op setting e) r.settings reached) :
    Told id s op r (reached.flatMap (settingLines s))
  | defaults (arity : MeetsArity s r) (owned : Owned id r) (given : Attributes)
    (encoded : List.Forall₂ (Encodes s) r.settings given)
    (lengths : LengthsFit given (measurements s r)) (reached : List Declaration)
    (through : Through (fun d => ∃ e, DefaultOffence op (measured s r given) d e)
      (unset (measured s r given) s.attributes) reached) :
    Told id s op r (r.settings.flatMap (settingLines s) ++ reached.flatMap (defaultLines op))

section Node

variable {id : Nat} {s : Signature} {op : String} {r : Request}

lemma events_node_of_unchecked (h : ¬(MeetsArity s r ∧ Owned id r)) :
    events (Draft.node id s op r) = [] := by
  rw [Draft.node, events_bind, events_ofExcept, outcome_ofExcept, List.nil_append]
  cases harity : checkArity s op r with
  | error e => rfl
  | ok _ =>
    simp only [events_bind, events_ofExcept, outcome_ofExcept, List.nil_append]
    cases howned : checkOwner id op r.wiring with
    | error e => rfl
    | ok _ => exact absurd ⟨checkArity_eq_ok_iff.1 harity, checkOwner_eq_ok_iff.1 howned⟩ h

lemma events_node_of_checked (harity : MeetsArity s r) (howned : Owned id r) :
    events (Draft.node id s op r) =
      events (r.settings.mapM fun setting => encodeSetting s op setting.1 setting.2) ++
        match outcome (r.settings.mapM fun setting => encodeSetting s op setting.1 setting.2) with
        | .error _ => []
        | .ok given =>
          match setLengths op (measurements s r) given with
          | .error _ => []
          | .ok stored => events (setDefaults op s.attributes stored) := by
  rw [Draft.node, events_bind, events_ofExcept, outcome_ofExcept, checkArity_eq_ok_iff.2 harity]
  simp only [events_bind, events_ofExcept, outcome_ofExcept, checkOwner_eq_ok_iff.2 howned,
    List.nil_append]
  congr 1
  cases outcome (r.settings.mapM fun setting => encodeSetting s op setting.1 setting.2) with
  | error e => rfl
  | ok given =>
    simp only [measurements]
    cases setLengths op (s.listInputs.zip (r.lists.map List.length)) given with
    | error e => rfl
    | ok stored =>
      simp only [events_pure]
      split <;> rw [List.append_nil]

/-- What is logged tells how far the draft got. -/
theorem told_node (hs : WellFormed s) :
    Told id s op r ((events (Draft.node id s op r)).map Event.line) := by
  by_cases hchecked : MeetsArity s r ∧ Owned id r
  · obtain ⟨harity, howned⟩ := hchecked
    obtain ⟨reached, hreached⟩ := exists_through (fun setting => ∃ e, SettingOffence s op setting e)
      r.settings
    have hsettings :
        events (r.settings.mapM fun setting => encodeSetting s op setting.1 setting.2) =
          reached.flatMap (settingEvents s) := by
      rw [events_mapM (hreached.congr fun setting _ => by simp only [encodeSetting_eq_error_iff])]
      simp only [events_encodeSetting]
    have hencoded : ∀ given, outcome (r.settings.mapM fun setting =>
        encodeSetting s op setting.1 setting.2) = .ok given ↔
        List.Forall₂ (Encodes s) r.settings given := by
      intro given
      simp only [outcome_mapM, mapM_eq_ok_iff, encodeSetting_eq_ok_iff]
    rw [events_node_of_checked harity howned, hsettings, List.map_append]
    simp only [List.map_flatMap, map_line_settingEvents]
    cases hgiven : outcome
      (r.settings.mapM fun setting => encodeSetting s op setting.1 setting.2) with
    | error e =>
      rw [List.map_nil, List.append_nil]
      refine .settings harity howned (fun given hforall => ?_) reached hreached
      rw [(hencoded given).2 hforall] at hgiven
      cases hgiven
    | ok given =>
      have hforall := (hencoded given).1 hgiven
      cases hlengths : setLengths op (measurements s r) given with
      | error e =>
        simp only [hlengths, List.map_nil, List.append_nil]
        refine .settings harity howned (fun other hother hfit => ?_) reached hreached
        rw [(hencoded other).2 hother, Except.ok.injEq] at hgiven
        rw [hgiven] at hfit
        rw [setLengths_eq_ok_iff.2 ⟨hfit, rfl⟩] at hlengths
        cases hlengths
      | ok stored =>
        obtain ⟨hfit, rfl⟩ := setLengths_eq_ok_iff.1 hlengths
        have hall : reached = r.settings := by
          refine hreached.eq_of_forall fun setting hsetting => ?_
          rintro ⟨e, he⟩
          obtain ⟨entry, hentry⟩ := exists_forall₂_iff.1 ⟨given, hforall⟩ setting hsetting
          rw [← encodeSetting_eq_error_iff, encodeSetting_eq_ok_iff.2 hentry] at he
          cases he
        obtain ⟨declarations, hdeclarations⟩ := exists_through
          (fun d => ∃ e, DefaultOffence op (measured s r given) d e)
          (unset (measured s r given) s.attributes)
        simp only [hlengths, hall]
        rw [← measured, events_setDefaults hs.nodup_attributes hdeclarations, List.map_flatMap]
        simp only [map_line_defaultEvents]
        exact .defaults harity howned given hforall hfit declarations hdeclarations
  · rw [events_node_of_unchecked hchecked]
    exact .unchecked hchecked

end Node

lemma aboutAttribute_of_mem_resolvedLines {op attr line : String} {setting : Setting}
    {declared : Option Kind} (h : line ∈ resolvedLines attr setting declared) :
    AboutAttribute op line := by
  unfold resolvedLines at h
  split at h
  · rw [List.mem_singleton] at h
    exact h ▸ .resolved _ _ _
  · cases h

lemma aboutAttribute_of_mem_settingLines {op line : String} {s : Signature}
    {setting : String × Setting} (h : line ∈ settingLines s setting) : AboutAttribute op line := by
  unfold settingLines at h
  split at h
  · cases h
  · exact aboutAttribute_of_mem_resolvedLines h

lemma aboutAttribute_of_mem_defaultLines {op line : String} {d : Declaration}
    (h : line ∈ defaultLines op d) : AboutAttribute op line := by
  unfold defaultLines at h
  rcases List.mem_append.1 h with h | h
  · cases hdefault : d.default? with
    | none =>
      rw [hdefault] at h
      cases h
    | some value =>
      rw [hdefault] at h
      exact aboutAttribute_of_mem_resolvedLines h
  · split at h
    · rw [List.mem_singleton] at h
      exact h ▸ .leftToRuntime _
    · cases h

lemma Told.aboutAttribute {id : Nat} {s : Signature} {op : String} {r : Request}
    {body : List String} (h : Told id s op r body) : ∀ line ∈ body, AboutAttribute op line := by
  intro line hline
  cases h with
  | unchecked failed => cases hline
  | settings arity owned stopped reached through =>
    obtain ⟨setting, -, hsetting⟩ := List.mem_flatMap.1 hline
    exact aboutAttribute_of_mem_settingLines hsetting
  | defaults arity owned given encoded lengths reached through =>
    rcases List.mem_append.1 hline with hline | hline
    · obtain ⟨setting, -, hsetting⟩ := List.mem_flatMap.1 hline
      exact aboutAttribute_of_mem_settingLines hsetting
    · obtain ⟨d, -, hd⟩ := List.mem_flatMap.1 hline
      exact aboutAttribute_of_mem_defaultLines hd

/-! ### Requests -/

/-- The errors that end a request before a node is drafted. -/
inductive Early : GraphError → Prop where
  | unknownOperation (opType : String) : Early (.unknownOperation opType)
  | duplicateName (name : String) : Early (.duplicateName name)

lemma DraftRefused.not_early {id : Nat} {s : Signature} {op : String} {r : Request} {e : GraphError}
    (h : DraftRefused id s op r e) : ¬Early e := by
  intro hearly
  cases h with
  | arity failed => cases hearly
  | foreign e arity first =>
    obtain ⟨_, _, _, _, _, -, rfl⟩ := first
    cases hearly
  | setting e arity owned first =>
    obtain ⟨_, _, _, _, _, hoffends⟩ := first
    cases hoffends <;> cases hearly
  | length e arity owned given encoded first =>
    obtain ⟨_, _, _, _, _, _, -, -, rfl⟩ := first
    cases hearly
  | default e arity owned given encoded lengths first =>
    obtain ⟨_, _, _, _, _, hoffends⟩ := first
    cases hoffends <;> cases hearly

/-- The last event of a draft for the node of this name. -/
def lastEvent (op : String) : Except GraphError Node → Event
  | .ok node => .added node.name node.opType node.inputs.length
  | .error _ => .dropped op

theorem log_add (g : Graph) (r : Request) : (g.add r).log =
    match g.registry.lookup r.opType with
    | none => []
    | some s =>
      match g.chooseName r with
      | .error _ => []
      | .ok (g₁, name) =>
        events (Draft.node g₁.id s name r) ++
          [lastEvent name (outcome (Draft.node g₁.id s name r))] := by
  rw [Graph.add]
  cases g.registry.lookup r.opType with
  | none => rfl
  | some s =>
    cases g.chooseName r with
    | error e => rfl
    | ok chosen =>
      obtain ⟨g₁, name⟩ := chosen
      simp only [outcome, events, Logged.log_bind]
      cases (Draft.node g₁.id s name r).run.value <;> rfl

/-- What the lines that a request logs tell. Only the last one is about the end of the draft. -/
structure Telling (g : Graph) (r : Request) : Prop where
  silent : ∀ e, (g.add r).value.2 = .error e → Early e → (g.add r).log.map Event.line = []
  told : (∀ e, (g.add r).value.2 = .error e → ¬Early e) → ∃ s name body last,
    g.registry.lookup r.opType = some s ∧ Named g r name ∧ Told g.id s name r body ∧
      (∀ line ∈ body, AboutAttribute name line ∧ ¬Closing line) ∧
      (g.add r).log.map Event.line = body ++ [last] ∧
      ((∃ op, (g.add r).value.2 = .ok op) ↔
        last = addedLine name s.name (r.inputs.length + r.lists.length)) ∧
      ((∃ e, (g.add r).value.2 = .error e) ↔ last = droppedLine name)

section Add

variable {g : Graph} (hr : Loaded g.registry) (hg : Consistent g) (r : Request)
include hr hg

lemma log_eq_nil_of_early {e : GraphError} (h : (g.add r).value.2 = .error e) (hearly : Early e) :
    (g.add r).log = [] := by
  rw [add_eq_error_iff hr hg] at h
  cases h with
  | unknownOperation unknown => simp only [log_add, unknown]
  | duplicateName s known name asked nonempty node mem taken =>
    have hname := (hg.chooseName_eq_error_iff r (.duplicateName name)).2
      ⟨name, asked, nonempty, ⟨node, mem, taken⟩, rfl⟩
    simp only [log_add, known, hname]
  | draft s known name named _ refused => exact absurd hearly refused.not_early

omit hr in
lemma exists_draft_of_not_early (h : ∀ e, (g.add r).value.2 = .error e → ¬Early e) :
    ∃ s g₁ name, g.registry.lookup r.opType = some s ∧ g.chooseName r = .ok (g₁, name) := by
  rw [add_value] at h
  cases hs : g.registry.lookup r.opType with
  | none =>
    simp only [hs] at h
    exact absurd (.unknownOperation r.opType) (h _ rfl)
  | some s =>
    cases hname : g.chooseName r with
    | error e =>
      simp only [hs, hname] at h
      obtain ⟨name, -, -, -, rfl⟩ := (hg.chooseName_eq_error_iff r e).1 hname
      exact absurd (.duplicateName name) (h _ rfl)
    | ok chosen => exact ⟨s, chosen.1, chosen.2, rfl, rfl⟩

lemma telling_add : Telling g r := by
  refine ⟨fun e he hearly => ?_, fun hlate => ?_⟩
  · rw [log_eq_nil_of_early hr hg r he hearly, List.map_nil]
  obtain ⟨s, g₁, name, hs, hname⟩ := exists_draft_of_not_early hg r hlate
  have htold : Told g.id s name r ((events (Draft.node g.id s name r)).map Event.line) :=
    told_node (lookup_eq_some hr hs).2.1
  have hid := (chooseName_eq_ok hname).1.id
  have hlog := log_add g r
  have hvalue := add_value g r
  simp only [hs, hname, hid] at hlog hvalue
  have hlines : (g.add r).log.map Event.line =
      (events (Draft.node g.id s name r)).map Event.line ++
        [(lastEvent name (outcome (Draft.node g.id s name r))).line] := by
    rw [hlog, List.map_append, List.map_singleton]
  refine ⟨s, name, _, _, hs, (hg.chooseName_eq_ok_iff r name).1 ⟨g₁, hname⟩, htold, ?_, hlines, ?_⟩
  · intro line hline
    have habout := htold.aboutAttribute line hline
    exact ⟨habout, habout.not_closing⟩
  · rw [hvalue]
    cases hnode : outcome (Draft.node g.id s name r) with
    | error e =>
      have hlast : (lastEvent name (.error e)).line = droppedLine name := rfl
      simp [hlast, (addedLine_ne_droppedLine _ _ _ _).symm]
    | ok node =>
      obtain ⟨given, -, rfl⟩ := (node_eq_ok_iff (lookup_eq_some hr hs).2.1).1 hnode
      have hlast : (lastEvent name (.ok (declaredNode s r given name))).line =
          addedLine name s.name (r.inputs.length + r.lists.length) := by
        simp [lastEvent, declaredNode, Request.wiring]
        rfl
      simp [hlast, addedLine_ne_droppedLine]

end Add

/-- On every graph that can be reached, a request that is refused for its operation type or its name
logs nothing. Any other request logs the lines of its draft, in order, and then, once and last, a line
that names the node and tells whether it was added or dropped. -/
theorem telling_of_reachable {w : Workspace} (hw : Reachable w) {i : Nat} {g : Graph}
    (hg : w.graphs[i]? = some g) (r : Request) : Telling g r :=
  telling_add (loaded_of_reachable hw hg) (consistent_of_reachable hw hg) r

/-- The sum is added with its type, dropped without it, and passed over under an unknown type. -/
theorem telling_sampleRun : ∃ g, (Workspace.empty.afterAll sampleRun).graphs[0]? = some g ∧
    (∃ name body, (g.add (sampleSum [("T", ⟨.type .float32, none⟩)])).log.map Event.line =
      body ++ [addedLine name "AddN" 1]) ∧
    (∃ name body, (g.add (sampleSum [])).log.map Event.line = body ++ [droppedLine name]) ∧
    (g.add { opType := "Unknown" }).log.map Event.line = [] := by
  have hadds : ((Workspace.empty.afterAll sampleRun).graphs[0]?.map fun g =>
      ((g.registry.lookup "AddN").map (·.name),
        (g.add (sampleSum [("T", ⟨.type .float32, none⟩)])).value.2.isOk,
        (g.add (sampleSum [])).value.2, (g.add { opType := "Unknown" }).value.2)) =
      some (some "AddN", true, .error (.missingAttribute "AddN" "T"),
        .error (.unknownOperation "Unknown")) := by
    decide +kernel
  obtain ⟨g, hg, hadds⟩ := Option.map_eq_some_iff.1 hadds
  simp only [Prod.mk.injEq] at hadds
  obtain ⟨hregistry, hadded, hdropped, hunknown⟩ := hadds
  refine ⟨g, hg, ?_, ?_, ?_⟩
  · cases hresult : (g.add (sampleSum [("T", ⟨.type .float32, none⟩)])).value.2 with
    | error e =>
      rw [hresult] at hadded
      cases hadded
    | ok op =>
      obtain ⟨s, name, body, last, hs, -, -, -, hlog, hlast, -⟩ :=
        (telling_of_reachable reachable_sampleRun hg _).told fun e he => by
          rw [hresult] at he
          cases he
      have hname : s.name = "AddN" := by
        rw [show g.registry.lookup "AddN" = some s from hs] at hregistry
        exact Option.some.inj hregistry
      rw [hlast.1 ⟨op, hresult⟩, hname] at hlog
      exact ⟨name, body, hlog⟩
  · obtain ⟨s, name, body, last, -, -, -, -, hlog, -, hlast⟩ :=
      (telling_of_reachable reachable_sampleRun hg _).told fun e he => by
        rw [hdropped] at he
        cases he
        exact fun hearly => nomatch hearly
    rw [hlast.1 ⟨_, hdropped⟩] at hlog
    exact ⟨name, body, hlog⟩
  · exact (telling_of_reachable reachable_sampleRun hg _).silent _ hunknown (.unknownOperation _)

end TensorGraph.Proofs
