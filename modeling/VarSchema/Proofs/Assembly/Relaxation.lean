import VarSchema.Proofs.Assembly.Nullability
import VarSchema.Proofs.Assembly.Verdict

/-!
# More lenient options

* `Constraint.toNode_eq_error_congr` : the error of a type depends on no option;
* `Options.SameSelection` : options that select the same variables and tolerate the same errors;
  `Assembly.run_eq_error_congr` : under them runs fail alike;
  `Options.SameSelection.diagnostics_eq` : and leave out the same;
* `Options.RelaxedTo` : options of which the second are as lenient as the first or more;
  `Constraint.conforms_of_relaxed`, `Variable.accepts_of_relaxed` : a value that conforms to a type still does, one
  that a variable accepts is still accepted;
* `Assembly.run_relaxed` : and so is every input that the root accepts.
-/

namespace VarSchema

namespace Options

/-- Options that select the same variables, tolerate the same errors and put the same keywords into the root. -/
structure SameSelection (o₁ o₂ : Options) : Prop where
  empty : o₁.allowEmpty = o₂.allowEmpty
  ignored : o₁.ignoreVariables = o₂.ignoreVariables
  root : o₁.rootProperties = o₂.rootProperties
  policy : o₁.onTypeError = o₂.onTypeError

/-- Options that differ at most in that the second allow other keys, require fewer variables or make more nullable. -/
structure RelaxedTo (strict lenient : Options) : Prop extends SameSelection strict lenient where
  additional : strict.allowAdditionalProperties = true → lenient.allowAdditionalProperties = true
  required : lenient.requireAll = true → strict.requireAll = true
  nullable : strict.nullableDefault = true → lenient.nullableDefault = true

variable {o₁ o₂ : Options}

theorem SameSelection.symm (h : o₁.SameSelection o₂) : o₂.SameSelection o₁ :=
  ⟨h.empty.symm, h.ignored.symm, h.root.symm, h.policy.symm⟩

end Options

/-! ## Types -/

namespace Constraint

theorem within_eq_error {α : Type} {segment : String} {r : Except TypeError α} {e : TypeError} :
    within segment r = .error e ↔ ∃ e', r = .error e' ∧ e'.within segment = e := Except.mapError_eq_error

mutual
theorem toNode_eq_error : ∀ {t : Constraint} {o₁ : Options} {p : Position} {e : TypeError} (o₂ : Options)
    (q : Position), toNode o₁ p t = .error e → toNode o₂ q t = .error e
  | .primitive _, _, _, _, _, _, h => nomatch h
  | .list t, _, _, _, o₂, _, h | .set t, _, _, _, o₂, _, h | .map t, _, _, _, o₂, _, h => by
    obtain ⟨e', he', rfl⟩ := within_eq_error.1 (Except.map_eq_error.1 h)
    exact Except.map_eq_error.2 (within_eq_error.2 ⟨e', toNode_eq_error (t := t) o₂ .nested he', rfl⟩)
  | .tuple ts, _, _, _, o₂, _, h =>
    Except.map_eq_error.2 (itemNodes_eq_error o₂ (Except.map_eq_error.1 h))
  | .object fields optional, _, _, _, o₂, _, h => by
    rw [toNode] at h ⊢
    split at h
    · exact h
    · exact Except.map_eq_error.2 (fieldNodes_eq_error o₂ (Except.map_eq_error.1 h))
termination_by structural t => t

theorem fieldNodes_eq_error : ∀ {fields : List (String × Constraint)} {o₁ : Options} {e : TypeError} (o₂ : Options),
    fieldNodes o₁ fields = .error e → fieldNodes o₂ fields = .error e
  | [], _, _, _, h => nomatch h
  | (k, t) :: rest, o₁, e, o₂, h => by
    rw [fieldNodes] at h ⊢
    cases hn : toNode o₂ .nested t with
    | error e' =>
      rw [toNode_eq_error o₁ .nested hn] at h
      exact h
    | ok n =>
      obtain ⟨m, hm, -⟩ := toNode_represents o₁ t .nested (wellFormed_of_toNode hn)
      rw [hm] at h
      exact Except.map_eq_error.2 (fieldNodes_eq_error o₂ (Except.map_eq_error.1 h))
termination_by structural fields => fields

theorem itemNodes_eq_error : ∀ {ts : List Constraint} {i : Nat} {o₁ : Options} {e : TypeError} (o₂ : Options),
    itemNodes o₁ i ts = .error e → itemNodes o₂ i ts = .error e
  | [], _, _, _, _, h => nomatch h
  | t :: rest, i, o₁, e, o₂, h => by
    rw [itemNodes] at h ⊢
    cases hn : toNode o₂ .nested t with
    | error e' =>
      rw [toNode_eq_error o₁ .nested hn] at h
      exact h
    | ok n =>
      obtain ⟨m, hm, -⟩ := toNode_represents o₁ t .nested (wellFormed_of_toNode hn)
      rw [hm] at h
      exact Except.map_eq_error.2 (itemNodes_eq_error o₂ (Except.map_eq_error.1 h))
termination_by structural ts => ts
end

/-- The error of a type depends neither on options nor on where the type stands. -/
theorem toNode_eq_error_congr (o₁ o₂ : Options) (p q : Position) (t : Constraint) (e : TypeError) :
    toNode o₁ p t = .error e ↔ toNode o₂ q t = .error e :=
  ⟨toNode_eq_error o₂ q, toNode_eq_error o₁ p⟩

end Constraint

/-! ## Runs that fail, and what is left out -/

namespace Variable

variable {o₁ o₂ : Options}

theorem typeSchema_eq_error_congr (o₁ o₂ : Options) (v : Variable) (e : TypeError) :
    v.typeSchema o₁ = .error e ↔ v.typeSchema o₂ = .error e := by
  unfold typeSchema
  cases v.type.constraint with
  | error e' => rfl
  | ok t =>
    show t.translate _ _ _ = .error e ↔ t.translate _ _ _ = .error e
    rw [Constraint.translate_eq_error_iff, Constraint.translate_eq_error_iff]
    exact Constraint.toNode_eq_error_congr o₁ o₂ .top .top t e

end Variable

namespace Options.SameSelection

variable {o₁ o₂ : Options}

theorem emitted_iff (h : o₁.SameSelection o₂) (v : Variable) : v.Emitted o₁ ↔ v.Emitted o₂ := by
  rw [Variable.emitted_iff_wellFormed, Variable.emitted_iff_wellFormed, h.ignored]

theorem fault?_eq (h : o₁.SameSelection o₂) (v : Variable) : v.fault? o₁ = v.fault? o₂ := by
  apply Option.ext
  intro e
  simp only [Variable.fault?_eq_some_iff, h.ignored, Variable.typeSchema_eq_error_congr o₁ o₂]

/-- What is left out of a variable depends on the selection alone. -/
theorem diagnostics_eq (h : o₁.SameSelection o₂) (v : Variable) : v.diagnostics o₁ = v.diagnostics o₂ := by
  by_cases hignored : v.name ∈ o₂.ignoreVariables
  · simp [Variable.diagnostics, h.ignored, hignored]
  · have hkept : v.name ∉ o₁.ignoreVariables := h.ignored ▸ hignored
    cases hv : v.toNode o₂ with
    | error e =>
      have hv' : v.toNode o₁ = .error e := by
        rwa [Variable.toNode_eq_error_iff, Variable.typeSchema_eq_error_congr o₁ o₂, ← Variable.toNode_eq_error_iff]
      rw [Variable.diagnostics_of_toNode_eq_error hkept hv', Variable.diagnostics_of_toNode_eq_error hignored hv]
    | ok r =>
      obtain ⟨-, t, n, ht, hn, -⟩ := Variable.yields_iff.1 ⟨hignored, r.1, r.2, hv, rfl⟩
      obtain ⟨m, hm, -⟩ := Constraint.toNode_represents o₁ t .top (Constraint.wellFormed_of_toNode hn)
      rw [Variable.diagnostics_of_toNode hkept ht hm, Variable.diagnostics_of_toNode hignored ht hn]

end Options.SameSelection

namespace Assembly

variable {o₁ o₂ : Options} {vs : List Variable} {e : SchemaError}

theorem run_eq_error (h : o₁.SameSelection o₂) (herror : run o₁ vs = .error e) : run o₂ vs = .error e := by
  cases hrepeated : repeated? [] (vs.map Variable.name) with
  | some name =>
    rw [run_of_repeated? hrepeated] at herror ⊢
    exact herror
  | none =>
    have hnames := repeated?_eq_none.1 hrepeated
    have hstop : (Parts.addAll o₁ vs default).2 = (Parts.addAll o₂ vs default).2 := by
      rw [Parts.addAll_snd, Parts.addAll_snd, h.policy, funext h.fault?_eq]
    rcases hadd : Parts.addAll o₂ vs default with ⟨q, _ | cause⟩
    · rw [hadd] at hstop
      have hadd' : Parts.addAll o₁ vs default = ((Parts.addAll o₁ vs default).1, none) := Prod.ext rfl hstop
      have hemitted : (∃ v ∈ vs, v.Emitted o₁) ↔ ∃ v ∈ vs, v.Emitted o₂ := by
        simp only [h.emitted_iff]
      rcases run_of_collected hnames hadd' with ⟨hrefused, hnone, hrun⟩ | ⟨-, hrun⟩
      · rw [hrun] at herror
        have hremains : ¬(o₂.allowEmpty = true ∨ ∃ v ∈ vs, v.Emitted o₂) := by
          rw [← h.empty, ← hemitted]
          exact not_remains_iff.2 ⟨hrefused, hnone⟩
        rcases run_of_collected hnames hadd with ⟨-, -, hrun'⟩ | ⟨hremains', -⟩
        · rw [hrun', herror]
        · exact absurd hremains' hremains
      · rw [hrun] at herror
        cases herror
    · rw [run_of_fault hnames (congrArg Prod.snd hadd)]
      rw [hadd] at hstop
      rwa [run_of_fault hnames hstop] at herror

/-- Runs that select the same variables fail alike. -/
theorem run_eq_error_congr (h : o₁.SameSelection o₂) : run o₁ vs = .error e ↔ run o₂ vs = .error e :=
  ⟨run_eq_error h, run_eq_error h.symm⟩

end Assembly

/-! ## What is accepted -/

variable {strict lenient : Options}

namespace Constraint

theorem keysConform_of_relaxed (h : strict.RelaxedTo lenient) {declared keys : List String} {optional : NameSet}
    (hkeys : keysConform strict declared optional keys = true) :
    keysConform lenient declared optional keys = true := by
  rw [keysConform_iff] at hkeys ⊢
  obtain ⟨hrequired, hknown⟩ := hkeys
  constructor
  · intro k hk
    apply hrequired
    simp only [requiredNames, List.mem_filter, Bool.or_eq_true] at hk ⊢
    exact ⟨hk.1, hk.2.imp_left h.required⟩
  · intro hclosed
    refine hknown ?_
    rw [← Bool.not_eq_true] at hclosed ⊢
    exact fun hopen => hclosed (h.additional hopen)

mutual
/-- What conforms to a type still does under more lenient options. -/
theorem conforms_of_relaxed (h : strict.RelaxedTo lenient) : ∀ {t : Constraint} {x : Json},
    t.conforms strict x = true → t.conforms lenient x = true
  | .primitive _, _, hx => hx
  | .list t, x, hx => by
    cases x with
    | arr items =>
      rw [conforms, List.all_eq_true] at hx ⊢
      exact fun y hy => conforms_of_relaxed h (hx y hy)
    | _ => cases hx
  | .set t, x, hx => by
    cases x with
    | arr items =>
      rw [conforms, Bool.and_eq_true, List.all_eq_true] at hx ⊢
      exact hx.imp_right fun hall y hy => conforms_of_relaxed h (hall y hy)
    | _ => cases hx
  | .map t, x, hx => by
    cases x with
    | obj fields =>
      rw [conforms, List.all_eq_true] at hx ⊢
      exact fun e he => conforms_of_relaxed h (hx e he)
    | _ => cases hx
  | .tuple ts, x, hx => by
    cases x with
    | arr items => exact conformItems_of_relaxed h hx
    | _ => cases hx
  | .object attributes optional, x, hx => by
    cases x with
    | obj fields =>
      rw [conforms, Bool.and_eq_true] at hx ⊢
      exact hx.imp (keysConform_of_relaxed h) (conformFields_of_relaxed h)
    | _ => cases hx
termination_by structural t => t

theorem conformItems_of_relaxed (h : strict.RelaxedTo lenient) : ∀ {ts : List Constraint} {xs : List Json},
    conformItems strict ts xs = true → conformItems lenient ts xs = true
  | [], [], _ => rfl
  | t :: ts, x :: xs, hxs => by
    rw [conformItems, Bool.and_eq_true] at hxs ⊢
    exact hxs.imp (conforms_of_relaxed h) (conformItems_of_relaxed h)
termination_by structural ts => ts

theorem conformFields_of_relaxed (h : strict.RelaxedTo lenient) : ∀ {attributes : List (String × Constraint)}
    {fields : Entries Json}, conformFields strict attributes fields = true →
      conformFields lenient attributes fields = true
  | [], _, _ => rfl
  | (k, t) :: rest, fields, hfields => by
    rw [conformFields, Bool.and_eq_true] at hfields ⊢
    refine hfields.imp (fun hvalue => ?_) (conformFields_of_relaxed h)
    cases hk : Entries.get? k fields with
    | none => rfl
    | some x =>
      rw [hk] at hvalue
      exact conforms_of_relaxed h hvalue
termination_by structural attributes => attributes
end

end Constraint

namespace Variable

variable {v : Variable} {t : Constraint} {n m : Node}

theorem isNullable_of_relaxed (h : strict.RelaxedTo lenient) (hnullable : v.isNullable strict.nullableDefault = true) :
    v.isNullable lenient.nullableDefault = true := by
  unfold isNullable at hnullable ⊢
  cases hown : v.nullable with
  | none =>
    rw [hown] at hnullable
    exact h.nullable hnullable
  | some nullable =>
    rw [hown] at hnullable
    exact hnullable

/-- What the schema of a variable accepts is accepted under more lenient options. -/
theorem accepts_of_relaxed (h : strict.RelaxedTo lenient) (hn : t.toNode strict .top = .ok n)
    (hm : t.toNode lenient .top = .ok m) (hlength : ∀ ts, t = .tuple ts → ts.length ≤ Binary64.wholeReach) {x : Json}
    (hx : Schema.accepts (v.finish strict (v.baseNode strict n)).toJson x = true) :
    Schema.accepts (v.finish lenient (v.baseNode lenient m)).toJson x = true := by
  rw [accepts_finish_iff_and hn hlength] at hx
  rw [accepts_finish_iff_and hm hlength]
  refine hx.imp_left (Or.imp (And.imp_left ?_) ?_)
  · exact isNullable_of_relaxed h
  · exact Constraint.conforms_of_relaxed h

/-- So is what it accepts as a property of the root. -/
theorem Yields.accepts_of_relaxed (h : strict.RelaxedTo lenient)
    (htuple : ∀ ts, v.type = .valid (.tuple ts) → ts.length < Binary64.wholeReach) {s u : Json}
    (hs : v.Yields strict s) (hu : v.Yields lenient u) {x : Json} (hx : Schema.accepts s x = true) :
    Schema.accepts u x = true := by
  obtain ⟨-, t, n, ht, hn, rfl⟩ := yields_iff.1 hs
  obtain ⟨-, t', m, ht', hm, rfl⟩ := yields_iff.1 hu
  rw [ht] at ht'
  cases ht'
  exact Variable.accepts_of_relaxed h hn hm (fun ts hts => Nat.le_of_lt (htuple ts (hts ▸ ht))) hx

end Variable

namespace Assembly

variable {vs : List Variable} {p q : Parts}

/-- What the root of the variables accepts is accepted under more lenient options. -/
theorem Collected.accepts_of_relaxed (h : strict.RelaxedTo lenient)
    (hroot : ∀ k ∈ strict.rootProperties.keys, k ∉ Schema.assertingKeywords)
    (htuple : ∀ v ∈ vs, ∀ ts, v.type = .valid (.tuple ts) → ts.length < Binary64.wholeReach)
    (hp : Collected strict vs p) (hq : Collected lenient vs q) {x : Json}
    (hx : Schema.accepts (root strict p).toJson x = true) : Schema.accepts (root lenient q).toJson x = true := by
  obtain ⟨fields, rfl, hgiven, hvalues, hknown⟩ := ((isRecord_root hroot p).accepts_iff x).1 hx
  rw [Schema.acceptsFields_iff] at hvalues
  have hroot' : ∀ k ∈ lenient.rootProperties.keys, k ∉ Schema.assertingKeywords := h.root ▸ hroot
  refine ((isRecord_root hroot' q).accepts_iff _).2 ⟨fields, rfl, ?_, Schema.acceptsFields_iff.2 ?_, ?_⟩
  · intro k hk
    apply hgiven
    rw [List.mem_mergeSort, hq.required] at hk
    rw [List.mem_mergeSort, hp.required]
    obtain ⟨v, hv, rfl, hemitted, hmust⟩ := hk
    exact ⟨v, hv, rfl, (h.emitted_iff v).2 hemitted, hmust.imp_left h.required⟩
  · intro k u hu y hy
    obtain ⟨v, hv, rfl, hyields⟩ := (hq.properties k u).1 (q.properties.ordered.get?_eq_some_iff.2 hu)
    have hemitted := (h.emitted_iff v).2 (Variable.emitted_iff.2 ⟨u, hyields⟩)
    obtain ⟨s, hs⟩ := Variable.emitted_iff.1 hemitted
    have hmem := p.properties.ordered.get?_eq_some_iff.1 ((hp.properties v.name s).2 ⟨v, hv, rfl, hs⟩)
    exact hs.accepts_of_relaxed h (htuple v hv) hyields (hvalues v.name s hmem y hy)
  · intro hclosed k hk
    have hclosed' : strict.allowAdditionalProperties = false := by
      rw [← Bool.not_eq_true] at hclosed ⊢
      exact fun hopen => hclosed (h.additional hopen)
    have hknown' := hknown hclosed' k hk
    rw [Entries.mem_keys_iff, Option.isSome_iff_exists] at hknown' ⊢
    obtain ⟨s, hs⟩ := hknown'
    obtain ⟨v, hv, rfl, hyields⟩ := (hp.properties k s).1 hs
    obtain ⟨u, hu⟩ := Variable.emitted_iff.1
      ((h.emitted_iff v).1 (Variable.emitted_iff.2 ⟨s, hyields⟩))
    exact ⟨u, (hq.properties v.name u).2 ⟨v, hv, rfl, hu⟩⟩

/-- **Under options that are more lenient a run fails if and only if it did, with the same error; otherwise it leaves
out the same conditions, and its root accepts every input that the root did.** -/
theorem run_relaxed (h : strict.RelaxedTo lenient)
    (hroot : ∀ k ∈ strict.rootProperties.keys, k ∉ Schema.assertingKeywords)
    (htuple : ∀ v ∈ vs, ∀ ts, v.type = .valid (.tuple ts) → ts.length < Binary64.wholeReach) :
    (run strict vs).isOk = (run lenient vs).isOk ∧ (∀ e, run strict vs = .error e ↔ run lenient vs = .error e) ∧
      ∀ a b, run strict vs = .ok a → run lenient vs = .ok b → a.diagnostics = b.diagnostics ∧
        ∀ x, Schema.accepts a.schema.toJson x = true → Schema.accepts b.schema.toJson x = true := by
  have herrors (e : SchemaError) : run strict vs = .error e ↔ run lenient vs = .error e :=
    run_eq_error_congr h.toSameSelection
  refine ⟨?_, herrors, fun a b ha hb => ?_⟩
  · cases hs : run strict vs with
    | error e => rw [(herrors e).1 hs]
    | ok a =>
      cases hl : run lenient vs with
      | error e => cases hs.symm.trans ((herrors e).2 hl)
      | ok b => rfl
  · obtain ⟨p, -, hp, rfl⟩ := run_eq_ok ha
    obtain ⟨q, -, hq, rfl⟩ := run_eq_ok hb
    refine ⟨?_, fun x hx => hp.accepts_of_relaxed h hroot htuple hq hx⟩
    show p.diagnostics = q.diagnostics
    rw [hp.diagnostics, hq.diagnostics, funext h.diagnostics_eq]

/-- All three options at once, on an object in an object, a bounded tuple and a condition that no rule recognizes. -/
theorem run_relaxed_nested :
    let strict : Options := ⟨false, true, false, false, [], KeyMap.empty, .fail⟩
    let lenient : Options := ⟨true, false, true, false, [], KeyMap.empty, .fail⟩
    let inner : Constraint := .object [("b", .primitive .string)] (NameSet.ofList ["b"])
    let v : Variable := ⟨"x", .valid (.object [("a", inner)] NameSet.empty), none, none, none,
      [.compare .ne (.varRef "x") (.literal .null)]⟩
    let w : Variable := ⟨"y", .valid (.tuple [.primitive .number, .primitive .any]), none, some .null, none,
      [.compare .ge (.length (.varRef "y")) (.literal (.int 1))]⟩
    let x : Json := .obj [("x", .obj [("a", .obj [("b", .str "c")])]), ("y", .arr [.int 1, .null])]
    ∃ a b, run strict [v, w] = .ok a ∧ run lenient [v, w] = .ok b ∧ a.diagnostics = b.diagnostics ∧
      Schema.accepts a.schema.toJson x = true ∧ Schema.accepts b.schema.toJson x = true := by
  intro strict lenient inner v w x
  have h : strict.RelaxedTo lenient := ⟨⟨rfl, rfl, rfl, rfl⟩, nofun, nofun, nofun⟩
  have htuple : ∀ u ∈ [v, w], ∀ ts, u.type = .valid (.tuple ts) → ts.length < Binary64.wholeReach := by
    intro u hu ts hts
    simp only [List.mem_cons, List.not_mem_nil, or_false] at hu
    rcases hu with rfl | rfl
    · cases hts
    · cases hts
      decide +kernel
  have hroot : ∀ k ∈ strict.rootProperties.keys, k ∉ Schema.assertingKeywords := nofun
  obtain ⟨hsame, -, hruns⟩ := run_relaxed h hroot htuple
  let p : Parts := (Parts.addAll strict [v, w] default).1
  have hfault : (Parts.addAll strict [v, w] default).2 = none := by decide +kernel
  have hadd : Parts.addAll strict [v, w] default = (p, none) := by rw [← hfault]
  have ha : run strict [v, w] = .ok ⟨root strict p, p.diagnostics⟩ :=
    (run_of_addAll (by decide) hadd).trans (if_neg (by decide +kernel))
  have haccepts : Schema.accepts (root strict p).toJson x = true := by
    have hgiven : ∀ k ∈ p.required, k ∈ ["x", "y"] := by decide +kernel
    refine ((isRecord_root hroot p).accepts_iff x).2 ⟨_, rfl, fun k hk => ?_, by decide +kernel, by decide +kernel⟩
    exact hgiven k (List.mem_mergeSort.1 hk)
  obtain ⟨b, hb⟩ := Except.isOk_iff.1 (hsame.symm.trans (congrArg Except.isOk ha))
  obtain ⟨hdiagnostics, hrelaxed⟩ := hruns _ b ha hb
  exact ⟨_, b, ha, hb, hdiagnostics, haccepts, hrelaxed x haccepts⟩

end Assembly

end VarSchema
