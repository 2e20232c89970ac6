import ExprTree.Proofs.Scope
import ExprTree.Proofs.Erasure

/-!
# Evaluation sees the bindings of free parameters alone

Parameters are scoped statically: a lambda's body reads its own parameters
from the arguments of a call and every other name from the bindings where
the lambda was evaluated. So evaluating a tree under two bindings that bind
its free names alike gives outcomes that agree (`Outcome.Agree`): the same
records, equal values or one fault, and closures of one lambda whose
bindings again agree on the names free in it, so that calling them with the
same arguments agrees again. No fault on the way is an unbound parameter,
since every name looked up is bound.

* `evalAt_agree`: evaluation under bindings that agree on the free names;
* `Agree.call`, `Agree.chain`: calls of agreeing results, down any chain;
* `eval_same_of_agree_freeParams`: for a built tree, bindings that bind its
  free parameters alike give the same outcome down every chain of calls,
  never an unbound parameter, and a closed tree the same outcome under any
  bindings.
-/

namespace ExprTree

/-! ### Bindings that agree -/

namespace Env

/-- Two bindings bind each of the names `xs`, and to the same value. -/
def AgreeOn (xs : List String) (env₁ env₂ : Env) : Prop :=
  ∀ x ∈ xs, ∃ v, env₁.find? x = some v ∧ env₂.find? x = some v

variable {xs ys : List String} {env₁ env₂ : Env}

theorem AgreeOn.mono (h : AgreeOn xs env₁ env₂) (hys : ∀ y ∈ ys, y ∈ xs) :
    AgreeOn ys env₁ env₂ :=
  fun y hy => h y (hys y hy)

theorem agreeOn_append : AgreeOn (xs ++ ys) env₁ env₂ ↔ AgreeOn xs env₁ env₂ ∧ AgreeOn ys env₁ env₂ := by
  simp only [AgreeOn, List.mem_append]
  exact ⟨fun h => ⟨fun x hx => h x (.inl hx), fun x hx => h x (.inr hx)⟩,
    fun ⟨h₁, h₂⟩ x hx => hx.elim (h₁ x) (h₂ x)⟩

theorem find?_bind (env : Env) (n x : String) (v : Value) :
    (env.bind n v).find? x = if n = x then some v else env.find? x := by
  by_cases h : n = x <;> simp [find?, bind, h]

/-- Binding a closure's parameters to arguments in turn: a name reads the
    argument of its last parameter of that name, else the old binding. -/
theorem find?_foldl_bind (ps : List (Param × Value)) (env : Env) (x : String) :
    (ps.foldl (fun e (p, a) => e.bind p.name a) env).find? x =
      ((ps.reverse.find? (·.1.name == x)).map (·.2)).or (env.find? x) := by
  induction ps generalizing env with
  | nil => simp
  | cons pa ps ih =>
    obtain ⟨p, a⟩ := pa
    rw [List.foldl_cons, ih, find?_bind]
    by_cases h : p.name = x
    · rcases hf : ps.reverse.find? (·.1.name == x) with _ | ⟨q, b⟩ <;> simp [List.find?_append, h, hf]
    · simp [List.find?_append, h]

/-- A parameter's name, in a call with as many arguments as parameters,
    reads the argument of the last parameter of that name. -/
theorem find?_zip_of_mem {ps : List Param} {args : List Value} {x : String}
    (hx : x ∈ ps.map (·.name)) (hlen : args.length = ps.length) :
    ∃ pa ∈ ps.zip args, (ps.zip args).reverse.find? (·.1.name == x) = some pa ∧ pa.1.name = x := by
  have hz : x ∈ (ps.zip args).reverse.map (·.1.name) := by
    rw [List.map_reverse, List.mem_reverse,
      show (ps.zip args).map (·.1.name) = ((ps.zip args).map (·.1)).map (·.name) by simp,
      List.map_fst_zip (by omega)]
    exact hx
  obtain ⟨q, hq, hqx⟩ := List.mem_map.mp hz
  obtain ⟨r, hr⟩ : ∃ r, (ps.zip args).reverse.find? (·.1.name == x) = some r :=
    Option.isSome_iff_exists.mp (List.find?_isSome.mpr ⟨q, hq, by simpa using hqx⟩)
  exact ⟨r, List.mem_reverse.mp (List.mem_of_find?_eq_some hr), hr,
    by simpa using List.find?_some hr⟩

/-- A name no parameter has reads no argument. -/
theorem find?_zip_of_not_mem {ps : List Param} {args : List Value} {x : String}
    (hx : x ∉ ps.map (·.name)) : (ps.zip args).reverse.find? (·.1.name == x) = none := by
  rw [List.find?_eq_none]
  intro q hq hqx
  apply hx
  have : q.1 ∈ ps := (List.of_mem_zip (List.mem_reverse.mp hq)).1
  exact List.mem_map.mpr ⟨q.1, this, by simpa using hqx⟩

/-- Calling two closures whose bindings agree on the names free in the
    lambda, with as many arguments as parameters, gives the body bindings
    that agree on the names free in the body. -/
theorem AgreeOn.bindAll {ps : List Param} {b : Node} {args : List Value}
    (h : AgreeOn ((Node.lambda .any ps b).freeOccurrences.map (·.name)) env₁ env₂)
    (hlen : args.length = ps.length) :
    AgreeOn (b.freeOccurrences.map (·.name))
      ((ps.zip args).foldl (fun e (p, a) => e.bind p.name a) env₁)
      ((ps.zip args).foldl (fun e (p, a) => e.bind p.name a) env₂) := by
  intro x hx
  rw [find?_foldl_bind, find?_foldl_bind]
  by_cases hp : x ∈ ps.map (·.name)
  · -- a parameter of the lambda reads the argument of its last occurrence
    obtain ⟨r, -, hr, -⟩ := find?_zip_of_mem hp hlen
    exact ⟨r.2, by simp [hr], by simp [hr]⟩
  · -- any other name is free in the lambda and read from its bindings
    have hfree : x ∈ (Node.lambda .any ps b).freeOccurrences.map (·.name) := by
      obtain ⟨q, hq, rfl⟩ := List.mem_map.mp hx
      exact List.mem_map.mpr ⟨q, Node.mem_freeOccurrences_lambda.mpr ⟨hq, hp⟩, rfl⟩
    obtain ⟨v, h₁, h₂⟩ := h x hfree
    rw [find?_zip_of_not_mem hp]
    exact ⟨v, by simp [h₁], by simp [h₂]⟩

end Env

/-! ### Faults of evaluation -/

@[simp] theorem Fault.is_withAttrs (s t : Sentinel) (a : List Attr) :
    ((Fault.of s).withAttrs a).is t = (s == t) := by
  simp [Fault.of, Fault.withAttrs, Fault.is]

theorem Value.memberOf_error {c : Catalog} {v : Value} {f : String} {e : Fault}
    (h : v.memberOf c f = .error e) : e.is .unboundParameter = false := by
  simp only [memberOf] at h
  repeat' split at h
  all_goals cases h <;> simp [unknownMember]

theorem Value.elementOf_error {v : Value} {i : Nat} {e : Fault}
    (h : v.elementOf i = .error e) : e.is .unboundParameter = false := by
  simp only [elementOf] at h
  repeat' split at h
  all_goals cases h <;> simp [outOfRange]

/-! ### Results and outcomes that agree -/

namespace Result

/-- Two results agree: equal values, or closures of one lambda at one depth
    whose bindings agree on the names free in the lambda. -/
def Agree : Result → Result → Prop
  | data v, data w => v = w
  | closure ps b e d, closure ps' b' e' d' =>
    ps = ps' ∧ b = b' ∧ d = d' ∧ Env.AgreeOn ((Node.lambda .any ps b).freeOccurrences.map (·.name)) e e'
  | _, _ => False

theorem Agree.typeName_eq {a b : Result} (h : a.Agree b) : a.typeName = b.typeName := by
  cases a <;> cases b <;> simp_all [Agree, typeName]

theorem Agree.symm {a b : Result} (h : a.Agree b) : b.Agree a := by
  cases a <;> cases b <;> simp only [Agree] at h ⊢
  · exact h.symm
  · obtain ⟨rfl, rfl, rfl, he⟩ := h
    exact ⟨rfl, rfl, rfl, fun x hx => (he x hx).imp fun _ h => h.symm⟩

end Result

namespace Outcome

/-- Two outcomes agree: the same records, and agreeing results or one
    fault, which is no unbound parameter. -/
inductive Agree : Outcome Result → Outcome Result → Prop where
  | ok {rs : List Log.Record} {a b : Result} : a.Agree b → Agree (rs, .ok a) (rs, .ok b)
  | error {rs : List Log.Record} {e : Fault} : e.is .unboundParameter = false →
      Agree (rs, .error e) (rs, .error e)

variable {o o' : Outcome Result}

theorem Agree.same (h : Agree o o') : Same o o' := by
  cases h with
  | ok hab =>
    rename_i a b
    refine ⟨rfl, ?_⟩
    cases a <;> cases b <;> simp_all [Result.Agree]
  | error => exact ⟨rfl, rfl⟩

theorem Agree.no_unbound (h : Agree o o') {e : Fault} (he : o.2 = .error e) :
    e.is .unboundParameter = false := by
  cases h with
  | ok => cases he
  | error hu => cases he; exact hu

theorem Agree.symm (h : Agree o o') : Agree o' o := by
  cases h with
  | ok hab => exact .ok hab.symm
  | error hu => exact .error hu

end Outcome

namespace Node

variable {c : Catalog} {o o' : Outcome Result}

theorem done_agree (k : Kind) (d : Nat) (h : o.Agree o') : (done k d o).Agree (done k d o') := by
  cases h with
  | ok hab =>
    simp only [done, record, hab.typeName_eq]
    exact .ok hab
  | error hu => exact .error hu

theorem andThen_agree {f g : Result → Outcome Result} (h : o.Agree o')
    (hfg : ∀ a b, a.Agree b → (f a).Agree (g b)) : (andThen o f).Agree (andThen o' g) := by
  cases h with
  | ok hab =>
    rename_i rs a b
    have hab' := hfg a b hab
    rcases hfa : f a with ⟨rs₁, r₁⟩
    rcases hgb : g b with ⟨rs₂, r₂⟩
    rw [hfa, hgb] at hab'
    simp only [andThen, hfa, hgb]
    cases hab' with
    | ok h' => exact .ok h'
    | error hu => exact .error hu
  | error hu => exact .error hu

/-- A step that gives one value, or one fault that is no unbound parameter. -/
theorem agree_of_data {r : Except Fault Value}
    (h : ∀ e, r = .error e → e.is .unboundParameter = false) :
    Outcome.Agree ([], r.map .data) ([], r.map .data) := by
  cases r with
  | ok v => exact .ok rfl
  | error e => exact .error (h e rfl)

theorem asBool_eq {k : Kind} {a b : Result} (h : a.Agree b) : asBool k a = asBool k b := by
  cases a <;> cases b <;> simp_all [Result.Agree, asBool, Result.typeName]

theorem asBool_error {k : Kind} {a : Result} {e : Fault} (h : asBool k a = .error e) :
    e.is .unboundParameter = false := by
  unfold asBool at h
  split at h
  · cases h
  · cases h
    simp

theorem memberOfResult_agree {a b : Result} (f : String) (h : a.Agree b) :
    Outcome.Agree ([], memberOfResult c a f) ([], memberOfResult c b f) := by
  cases a <;> cases b <;> simp only [Result.Agree] at h
  · subst h
    exact agree_of_data fun e he => Value.memberOf_error he
  · exact .error (by simp [unknownMember])

theorem elementOfResult_agree {a b : Result} (i : Nat) (h : a.Agree b) :
    Outcome.Agree ([], elementOfResult a i) ([], elementOfResult b i) := by
  cases a <;> cases b <;> simp only [Result.Agree] at h
  · subst h
    exact agree_of_data fun e he => Value.elementOf_error he
  · exact .error (by simp)

theorem resultEq_eq {a a' b b' : Result} (ha : a.Agree a') (hb : b.Agree b') :
    resultEq c a b = resultEq c a' b' := by
  cases a <;> cases a' <;> cases b <;> cases b' <;> simp_all [Result.Agree, resultEq]

/-- A boolean step on agreeing results agrees. -/
theorem bool_agree {x : Except Fault Bool} (g : Bool → Value)
    (h : ∀ e, x = .error e → e.is .unboundParameter = false) :
    Outcome.Agree ([], x.map fun b => .data (g b)) ([], x.map fun b => .data (g b)) := by
  have := agree_of_data (r := x.map g) fun e he => by
    cases x with
    | ok b => cases he
    | error e' => simp only [Except.map, Except.error.injEq] at he; exact h e (he ▸ rfl)
  cases x <;> simpa [Except.map] using this

/-- Evaluating a tree under bindings that agree on the names of its free
    parameters gives agreeing outcomes. -/
theorem evalAt_agree (c : Catalog) {env₁ env₂ : Env} (d : Nat) (n : Node)
    (h : Env.AgreeOn (n.freeOccurrences.map (·.name)) env₁ env₂) :
    (evalAt c env₁ d n).Agree (evalAt c env₂ d n) := by
  induction n generalizing d with
  | param p =>
    obtain ⟨v, h₁, h₂⟩ := h p.name (by simp [freeOccurrences])
    simp only [evalAt, h₁, h₂]
    exact done_agree _ _ (.ok rfl)
  | value t v => exact done_agree _ _ (.ok rfl)
  | member t s f ih =>
    exact done_agree _ _ (andThen_agree (ih _ h) fun a b hab => memberOfResult_agree f hab)
  | index t s i ih =>
    exact done_agree _ _ (andThen_agree (ih _ h) fun a b hab => elementOfResult_agree i hab)
  | not o ih =>
    refine done_agree _ _ (andThen_agree (ih _ h) fun a b hab => ?_)
    rw [asBool_eq hab]
    exact bool_agree _ fun e he => asBool_error he
  | equal l r ihl ihr =>
    rw [freeOccurrences, List.map_append, Env.agreeOn_append] at h
    refine done_agree _ _ (andThen_agree (ihl _ h.1) fun a a' ha =>
      andThen_agree (ihr _ h.2) fun b b' hb => ?_)
    rw [resultEq_eq ha hb]
    exact .ok rfl
  | and l r ihl ihr | or l r ihl ihr =>
    rw [freeOccurrences, List.map_append, Env.agreeOn_append] at h
    refine done_agree _ _ (andThen_agree (ihl _ h.1) fun a a' ha => ?_)
    rw [asBool_eq ha]
    -- the left operand decides, fails, or leaves it to the right one
    split
    · exact .error (asBool_error ‹_›)
    · exact .ok rfl
    · exact andThen_agree (ihr _ h.2) fun b b' hb => by
        rw [asBool_eq hb]
        exact bool_agree _ fun e he => asBool_error he
  | lambda t ps b ih => exact done_agree _ _ (.ok ⟨rfl, rfl, rfl, h⟩)
  | view t n ih => exact ih d h

end Node

namespace Result

variable {c : Catalog}

/-- Calling agreeing results with the same arguments agrees. -/
theorem Agree.call {a b : Result} (h : a.Agree b) (args : List Value) :
    (a.call c args).Agree (b.call c args) := by
  cases a <;> cases b <;> simp only [Agree] at h
  · exact .error (by simp [Fault.text, Fault.is])
  · obtain ⟨rfl, rfl, rfl, he⟩ := h
    rename_i ps b e d e'
    by_cases hlen : args.length = ps.length
    · have hb := Node.evalAt_agree c (d + 1) b (he.bindAll hlen)
      simpa [Result.call, hlen] using hb
    · simp only [Result.call, bne_iff_ne, ne_eq, hlen, not_false_eq_true, ↓reduceIte]
      exact .error (by simp)

end Result

namespace Outcome

/-- Calling what agreeing outcomes give agrees, down any chain of calls. -/
theorem Agree.chain {c : Catalog} {o o' : Outcome Result} (h : o.Agree o')
    (calls : List (List Value)) : (o.chain c calls).Agree (o'.chain c calls) := by
  induction calls generalizing o o' with
  | nil => exact h
  | cons args rest ih =>
    exact ih (Node.andThen_agree h fun a b hab => hab.call args)

end Outcome

namespace Node

variable {c : Catalog} {inst : Nat → Param}

/-- Static scoping: a built tree evaluates under two bindings that bind its
    free parameters to the same values to the same outcome, down every chain
    of calls of what it gives, and never to an unbound parameter; a closed
    tree evaluates to the same outcome under any bindings. -/
theorem eval_same_of_agree_freeParams {n : Node} (h : n.Built c inst) :
    (∀ env₁ env₂, (∀ p ∈ n.freeParams, ∃ v, env₁.find? p.name = some v ∧ env₂.find? p.name = some v) →
      ∀ c' calls, Outcome.Same ((eval c' env₁ n).chain c' calls) ((eval c' env₂ n).chain c' calls) ∧
        (∀ e, ((eval c' env₁ n).chain c' calls).2 = .error e → e.is .unboundParameter = false) ∧
        (∀ e, ((eval c' env₂ n).chain c' calls).2 = .error e → e.is .unboundParameter = false)) ∧
    (n.check = .ok () → ∀ env₁ env₂ c' calls,
      Outcome.Same ((eval c' env₁ n).chain c' calls) ((eval c' env₂ n).chain c' calls)) := by
  -- both parts rest on agreement on the names of the free occurrences
  have key : ∀ env₁ env₂, Env.AgreeOn (n.freeOccurrences.map (·.name)) env₁ env₂ →
      ∀ c' calls, ((eval c' env₁ n).chain c' calls).Agree ((eval c' env₂ n).chain c' calls) :=
    fun env₁ env₂ hagree c' calls => (evalAt_agree c' 1 n hagree).chain calls
  refine ⟨fun env₁ env₂ hbound c' calls => ?_, fun hc env₁ env₂ c' calls => ?_⟩
  · have hagree : Env.AgreeOn (n.freeOccurrences.map (·.name)) env₁ env₂ := by
      intro x hx
      obtain ⟨p, hp, rfl⟩ := List.mem_map.mp hx
      exact hbound p (h.mem_freeParams hp)
    have ha := key env₁ env₂ hagree c' calls
    exact ⟨ha.same, fun e he => ha.no_unbound he, fun e he => ha.symm.no_unbound he⟩
  · have hnil := (h.check_eq_ok_iff).mp hc
    exact (key env₁ env₂ (by simp [hnil, Env.AgreeOn]) c' calls).same

/-- The lambda `y => x` reads the free parameter `x`: called, it gives the same
    outcome under bindings that agree on `x` alone. -/
theorem eval_same_of_agree_lambda_call :
    (lambda .any [⟨"y", .any, 0⟩] (.param ⟨"x", .any, 1⟩)).Built {}
      (fun id => if id = 0 then ⟨"y", .any, 0⟩ else ⟨"x", .any, 1⟩) ∧
    (Outcome.Same
        ((eval {} (Env.ofList [("x", .ofInt 1), ("z", .ofInt 2)])
          (lambda .any [⟨"y", .any, 0⟩] (.param ⟨"x", .any, 1⟩))).chain {} [[.ofInt 5]])
        ((eval {} (Env.ofList [("x", .ofInt 1)])
          (lambda .any [⟨"y", .any, 0⟩] (.param ⟨"x", .any, 1⟩))).chain {} [[.ofInt 5]]) ∧
      (∀ e, ((eval {} (Env.ofList [("x", .ofInt 1), ("z", .ofInt 2)])
          (lambda .any [⟨"y", .any, 0⟩] (.param ⟨"x", .any, 1⟩))).chain {} [[.ofInt 5]]).2 =
          .error e → e.is .unboundParameter = false) ∧
      (∀ e, ((eval {} (Env.ofList [("x", .ofInt 1)])
          (lambda .any [⟨"y", .any, 0⟩] (.param ⟨"x", .any, 1⟩))).chain {} [[.ofInt 5]]).2 =
          .error e → e.is .unboundParameter = false)) :=
  have hx : (param ⟨"x", .any, 1⟩).Built {}
      (fun id => if id = 0 then ⟨"y", .any, 0⟩ else ⟨"x", .any, 1⟩) :=
    .param rfl (Build.parameter_eq_ok.mpr ⟨by decide +kernel, rfl⟩)
  have hy : (param ⟨"y", .any, 0⟩).Built {}
      (fun id => if id = 0 then ⟨"y", .any, 0⟩ else ⟨"x", .any, 1⟩) :=
    .param rfl (Build.parameter_eq_ok.mpr ⟨by decide +kernel, rfl⟩)
  have hb : (lambda .any [⟨"y", .any, 0⟩] (.param ⟨"x", .any, 1⟩)).Built {}
      (fun id => if id = 0 then ⟨"y", .any, 0⟩ else ⟨"x", .any, 1⟩) :=
    .lambda hx rfl (fun p hp => by rw [List.mem_singleton.mp hp]; exact hy)
      (Build.lambda_eq_ok.mpr ⟨by simp, by simp, by decide +kernel, rfl⟩)
  ⟨hb, (eval_same_of_agree_freeParams hb).1 _ _ (fun p hp => by
    have hfree : (lambda .any [⟨"y", .any, 0⟩] (.param ⟨"x", .any, 1⟩)).freeParams =
        [⟨"x", .any, 1⟩] := by decide +kernel
    rw [hfree, List.mem_singleton] at hp
    subst hp
    exact ⟨.ofInt 1, rfl, rfl⟩) {} [[.ofInt 5]]⟩

end Node

end ExprTree
