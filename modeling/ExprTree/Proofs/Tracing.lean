import Mathlib.Data.List.Chain
import ExprTree.Proofs.Safety

/-!
# Trace records follow the evaluation

An evaluation logs one `trace` record for each node it visits, once that node
is done (`Node.record`): its kind (a view's, the shown node's), its depth, and
the type of its result or its fault. The nodes visited, in the order they
are done, are `Node.visits`: operands before the operator, left before right;
the right operand of `===` once the left is evaluated, of `&&` once the left
is true, of `||` once it is false; never the body of a lambda, which a call
of its closure visits, one level below the lambda.

When an evaluation fails, its visits are the nodes that were evaluated
followed by the chain of the failing node and its ancestors, each one level
above the one before, all failing with the same fault (`Node.FailedAt`): the
records end with one `evaluate failed` record for each node of that chain,
and no node to the right of the failure is visited.

* `evalAt_records`: the records are those of the visited nodes, in order;
* `visits_of_ok`, `visits_of_error`: what the visited nodes gave;
* `call_records`: a call of a lambda's closure records its body's visits;
* `eval_trace`: all of it for an evaluation from the root.
-/

namespace ExprTree

namespace Node

/-- The nodes an evaluation at depth `d` visits, each with its depth, in the
    order they are done (see the module header); views are looked through. -/
def visits (c : Catalog) (env : Env) (d : Nat) : Node → List (Node × Nat)
  | view _ n => visits c env d n
  | member t s f => visits c env (d + 1) s ++ [(member t s f, d)]
  | index t s i => visits c env (d + 1) s ++ [(index t s i, d)]
  | not o => visits c env (d + 1) o ++ [(not o, d)]
  | equal l r =>
    visits c env (d + 1) l ++
      (if (evalAt c env (d + 1) l).2.isOk then visits c env (d + 1) r else []) ++
      [(equal l r, d)]
  | and l r =>
    visits c env (d + 1) l ++
      (match (evalAt c env (d + 1) l).2 >>= asBool .and with
        | .ok true => visits c env (d + 1) r
        | _ => []) ++
      [(and l r, d)]
  | or l r =>
    visits c env (d + 1) l ++
      (match (evalAt c env (d + 1) l).2 >>= asBool .or with
        | .ok false => visits c env (d + 1) r
        | _ => []) ++
      [(or l r, d)]
  | n => [(n, d)]

-- a false left operand of `&&` leaves the right one, here unbound, unvisited
example : visits {} {} 1 (.and (.value .bool (.ofBool false)) (.param ⟨"x", .bool, 0⟩)) =
    [(.value .bool (.ofBool false), 2),
      (.and (.value .bool (.ofBool false)) (.param ⟨"x", .bool, 0⟩), 1)] := rfl

/-- The record of a visited node: its kind, its depth and what it gave. -/
def traceOf (c : Catalog) (env : Env) (p : Node × Nat) : Log.Record :=
  record p.1.kind p.2 (evalAt c env p.2 p.1).2

/-- A visited node is an operand of another, seen through views, one level
    below it. -/
def ChildOf (a b : Node × Nat) : Prop := a.2 = b.2 + 1 ∧ ∃ o ∈ b.1.children, o.unwrap = a.1

/-- The visits `vs` of an evaluation of `n` at depth `d` that failed with `e`:
    nodes that were evaluated, then the failing node and its ancestors in
    turn, up to `n`, each failing with `e`. -/
def FailedAt (c : Catalog) (env : Env) (e : Fault) (n : Node) (d : Nat)
    (vs : List (Node × Nat)) : Prop :=
  ∃ pre chain, vs = pre ++ chain ∧ (∀ p ∈ pre, (evalAt c env p.2 p.1).2.isOk) ∧
    (∀ p ∈ chain, (evalAt c env p.2 p.1).2 = .error e) ∧
    chain.getLast? = some (n.unwrap, d) ∧ chain.IsChain ChildOf

variable {c : Catalog} {env : Env}

theorem done_fst (k : Kind) (d : Nat) (o : Outcome Result) :
    (done k d o).1 = o.1 ++ [record k d o.2] := rfl

theorem andThen_fst_of_ok {α β : Type} {o : Outcome α} {a : α} (f : α → Outcome β)
    (h : o.2 = .ok a) : (andThen o f).1 = o.1 ++ (f a).1 := by
  obtain ⟨rs, r⟩ := o
  cases h
  rfl

theorem andThen_fst_of_error {α β : Type} {o : Outcome α} {e : Fault} (f : α → Outcome β)
    (h : o.2 = .error e) : (andThen o f).1 = o.1 := by
  obtain ⟨rs, r⟩ := o
  cases h
  rfl

theorem andThen_fst_of_nil {α β : Type} (o : Outcome α) {f : α → Outcome β}
    (hf : ∀ a, (f a).1 = []) : (andThen o f).1 = o.1 := by
  obtain ⟨rs, r⟩ := o
  cases r <;> simp [andThen, hf]

/-- A node's own record comes last, after those of its operands. -/
theorem records_done {n : Node} {d : Nat} {k : Kind} {o : Outcome Result}
    (h : evalAt c env d n = done k d o) (hk : n.kind = k) :
    (evalAt c env d n).1 = o.1 ++ [traceOf c env (n, d)] := by
  simp only [traceOf, h, hk, done_fst, done_snd]

/-- The records of an evaluation are those of the nodes it visits, in the
    order they are done. -/
theorem evalAt_records (d : Nat) (n : Node) :
    (evalAt c env d n).1 = (visits c env d n).map (traceOf c env) := by
  induction n generalizing d with
  | view t n ih => exact ih d
  | param p => rfl
  | value t v => rfl
  | lambda t ps b => rfl
  | member t s _ ih | index t s _ ih | not s ih =>
    rw [records_done rfl rfl, andThen_fst_of_nil _ fun _ => rfl, ih]
    simp [visits]
  | equal l r ihl ihr =>
    rw [records_done rfl rfl]
    -- the right operand is evaluated once the left is
    cases hl : (evalAt c env (d + 1) l).2 with
    | error e =>
      rw [andThen_fst_of_error _ hl, ihl]
      simp [visits, hl, Except.isOk, Except.toBool]
    | ok a =>
      rw [andThen_fst_of_ok _ hl, andThen_fst_of_nil _ fun _ => rfl, ihl, ihr]
      simp [visits, hl, Except.isOk, Except.toBool]
  | and l r ihl ihr =>
    rw [records_done rfl rfl]
    cases hl : (evalAt c env (d + 1) l).2 with
    | error e =>
      rw [andThen_fst_of_error _ hl, ihl]
      simp [visits, hl, bind, Except.bind]
    | ok a =>
      rw [andThen_fst_of_ok _ hl, ihl]
      -- the right operand is evaluated once the left is true
      cases hb : asBool .and a with
      | error e => simp [visits, hl, hb, bind, Except.bind]
      | ok b =>
        cases b <;> simp [visits, hl, hb, bind, Except.bind, andThen_fst_of_nil, ihr]
  | or l r ihl ihr =>
    rw [records_done rfl rfl]
    cases hl : (evalAt c env (d + 1) l).2 with
    | error e =>
      rw [andThen_fst_of_error _ hl, ihl]
      simp [visits, hl, bind, Except.bind]
    | ok a =>
      rw [andThen_fst_of_ok _ hl, ihl]
      -- the right operand is evaluated once the left is false
      cases hb : asBool .or a with
      | error e => simp [visits, hl, hb, bind, Except.bind]
      | ok b =>
        cases b <;> simp [visits, hl, hb, bind, Except.bind, andThen_fst_of_nil, ihr]

theorem andThen_snd_eq_ok {α β : Type} {o : Outcome α} {f : α → Outcome β} {b : β}
    (h : (andThen o f).2 = .ok b) : ∃ a, o.2 = .ok a ∧ (f a).2 = .ok b := by
  rw [andThen_snd] at h
  exact except_bind_eq_ok.1 h

theorem andThen_snd_of_ok {α β : Type} {o : Outcome α} {a : α} (f : α → Outcome β)
    (h : o.2 = .ok a) : (andThen o f).2 = (f a).2 := by
  rw [andThen_snd, h]
  rfl

theorem fault_eq_of_andThen {α β : Type} {o : Outcome α} {f : α → Outcome β} {e e' : Fault}
    (h : (andThen o f).2 = .error e) (ho : o.2 = .error e') : e' = e := by
  rw [andThen_snd, ho] at h
  cases h
  rfl

/-- Every node a successful evaluation visits was evaluated. -/
theorem visits_of_ok {d : Nat} {n : Node} {a : Result} (h : (evalAt c env d n).2 = .ok a) :
    ∀ p ∈ visits c env d n, (evalAt c env p.2 p.1).2.isOk := by
  have hself : (evalAt c env d n).2.isOk := by rw [h]; rfl
  induction n generalizing d a with
  | view t n ih => exact ih h hself
  | param p | value t v | lambda t ps b => simpa [visits] using hself
  | member t s f ih | index t s f ih | not s ih =>
    obtain ⟨r, hr, -⟩ := andThen_snd_eq_ok h
    intro p hp
    simp only [visits, List.mem_append, List.mem_singleton] at hp
    rcases hp with hp | rfl
    · exact ih hr (by rw [hr]; rfl) p hp
    · exact hself
  | equal l r ihl ihr =>
    obtain ⟨a, hl, h⟩ := andThen_snd_eq_ok h
    obtain ⟨b, hr, -⟩ := andThen_snd_eq_ok h
    intro p hp
    simp only [visits, hl, List.mem_append, List.mem_singleton] at hp
    rcases hp with (hp | hp) | rfl
    · exact ihl hl (by rw [hl]; rfl) p hp
    · exact ihr hr (by rw [hr]; rfl) p (by simpa [Except.isOk, Except.toBool] using hp)
    · exact hself
  | and l r ihl ihr =>
    obtain ⟨a, hl, h⟩ := andThen_snd_eq_ok h
    intro p hp
    simp only [visits, hl, List.mem_append, List.mem_singleton] at hp
    rcases hp with (hp | hp) | rfl
    · exact ihl hl (by rw [hl]; rfl) p hp
    · -- the right operand is visited only once the left is true, and then evaluated
      cases hb : asBool .and a with
      | error e => simp [hb, bind, Except.bind] at hp
      | ok b =>
        cases b
        · simp [hb, bind, Except.bind] at hp
        · simp only [hb] at h
          obtain ⟨b', hr, -⟩ := andThen_snd_eq_ok h
          exact ihr hr (by rw [hr]; rfl) p (by simpa [hb, bind, Except.bind] using hp)
    · exact hself
  | or l r ihl ihr =>
    obtain ⟨a, hl, h⟩ := andThen_snd_eq_ok h
    intro p hp
    simp only [visits, hl, List.mem_append, List.mem_singleton] at hp
    rcases hp with (hp | hp) | rfl
    · exact ihl hl (by rw [hl]; rfl) p hp
    · -- the right operand is visited only once the left is false, and then evaluated
      cases hb : asBool .or a with
      | error e => simp [hb, bind, Except.bind] at hp
      | ok b =>
        cases b
        · simp only [hb] at h
          obtain ⟨b', hr, -⟩ := andThen_snd_eq_ok h
          exact ihr hr (by rw [hr]; rfl) p (by simpa [hb, bind, Except.bind] using hp)
        · simp [hb, bind, Except.bind] at hp
    · exact hself

/-- A node that fails itself, after the nodes visited before it were
    evaluated. -/
theorem FailedAt.self (pre : List (Node × Nat)) {n : Node} {d : Nat} {e : Fault}
    (hn : n.unwrap = n) (hpre : ∀ p ∈ pre, (evalAt c env p.2 p.1).2.isOk)
    (he : (evalAt c env d n).2 = .error e) : FailedAt c env e n d (pre ++ [(n, d)]) :=
  ⟨pre, [(n, d)], rfl, hpre, by simpa using he, by simp [hn], List.isChain_singleton _⟩

/-- A failure of an operand `o` passed up to its parent `n`, one level above
    it, after the nodes visited before the operand were evaluated. -/
theorem FailedAt.up (pre : List (Node × Nat)) {vs : List (Node × Nat)} {n o : Node} {d : Nat}
    {e : Fault} (h : FailedAt c env e o (d + 1) vs) (hn : n.unwrap = n) (ho : o ∈ n.children)
    (hpre : ∀ p ∈ pre, (evalAt c env p.2 p.1).2.isOk)
    (he : (evalAt c env d n).2 = .error e) : FailedAt c env e n d (pre ++ vs ++ [(n, d)]) := by
  obtain ⟨pre', chain, rfl, hpre', hchain, hlast, hc⟩ := h
  refine ⟨pre ++ pre', chain ++ [(n, d)], by simp, ?_, ?_, by simp [hn], ?_⟩
  · intro p hp
    rcases List.mem_append.1 hp with hp | hp
    · exact hpre p hp
    · exact hpre' p hp
  · intro p hp
    rcases List.mem_append.1 hp with hp | hp
    · exact hchain p hp
    · rw [List.mem_singleton.1 hp]
      exact he
  · -- the operand's node, last in its chain, is a child of `n`
    refine List.isChain_append.2 ⟨hc, List.isChain_singleton _, ?_⟩
    intro x hx y hy
    rw [hlast, Option.mem_some_iff] at hx
    rw [List.head?_singleton, Option.mem_some_iff] at hy
    subst hx hy
    exact ⟨rfl, o, ho, rfl⟩

/-- The visits of a failed evaluation are nodes that were evaluated, then the
    failing node and its ancestors in turn, each failing with the same fault. -/
theorem visits_of_error {d : Nat} {n : Node} {e : Fault} (h : (evalAt c env d n).2 = .error e) :
    FailedAt c env e n d (visits c env d n) := by
  induction n generalizing d with
  | view t n ih => exact ih h
  | param p => simpa [visits] using FailedAt.self [] rfl (by simp) h
  | value t v => cases h
  | lambda t ps b => cases h
  | member t s _ ih | index t s _ ih | not s ih =>
    cases hs : (evalAt c env (d + 1) s).2 with
    | error e' =>
      -- the operand failed, with the fault of the whole
      obtain rfl := fault_eq_of_andThen h hs
      simpa [visits] using FailedAt.up [] (ih hs) rfl (by simp [children]) (by simp) h
    | ok r => simpa [visits] using FailedAt.self _ rfl (visits_of_ok hs) h
  | equal l r ihl ihr =>
    cases hl : (evalAt c env (d + 1) l).2 with
    | error e' =>
      obtain rfl := fault_eq_of_andThen h hl
      simpa [visits, hl, Except.isOk, Except.toBool] using
        FailedAt.up [] (ihl hl) rfl (by simp [children]) (by simp) h
    | ok a =>
      have h' := (andThen_snd_of_ok _ hl).symm.trans h
      cases hr : (evalAt c env (d + 1) r).2 with
      | error e' =>
        obtain rfl := fault_eq_of_andThen h' hr
        simpa [visits, hl, Except.isOk, Except.toBool] using
          FailedAt.up _ (ihr hr) rfl (by simp [children]) (visits_of_ok hl) h
      | ok b =>
        -- an equality of two results does not fail
        rw [andThen_snd_of_ok _ hr] at h'
        cases h'
  | and l r ihl ihr =>
    cases hl : (evalAt c env (d + 1) l).2 with
    | error e' =>
      obtain rfl := fault_eq_of_andThen h hl
      simpa [visits, hl, bind, Except.bind] using
        FailedAt.up [] (ihl hl) rfl (by simp [children]) (by simp) h
    | ok a =>
      have h' := (andThen_snd_of_ok _ hl).symm.trans h
      cases hb : asBool .and a with
      | error e' =>
        -- the left operand is no boolean
        simpa [visits, hl, hb, bind, Except.bind] using FailedAt.self _ rfl (visits_of_ok hl) h
      | ok b =>
        -- the left operand decides when it is false
        cases b
        · simp [hb] at h'
        · simp only [hb] at h'
          cases hr : (evalAt c env (d + 1) r).2 with
          | error e' =>
            obtain rfl := fault_eq_of_andThen h' hr
            simpa [visits, hl, hb, bind, Except.bind] using
              FailedAt.up _ (ihr hr) rfl (by simp [children]) (visits_of_ok hl) h
          | ok b =>
            -- the right operand is no boolean
            have hok : ∀ p ∈ visits c env (d + 1) l ++ visits c env (d + 1) r,
                (evalAt c env p.2 p.1).2.isOk := fun p hp =>
              (List.mem_append.1 hp).elim (visits_of_ok hl p) (visits_of_ok hr p)
            simpa [visits, hl, hb, bind, Except.bind] using FailedAt.self _ rfl hok h
  | or l r ihl ihr =>
    cases hl : (evalAt c env (d + 1) l).2 with
    | error e' =>
      obtain rfl := fault_eq_of_andThen h hl
      simpa [visits, hl, bind, Except.bind] using
        FailedAt.up [] (ihl hl) rfl (by simp [children]) (by simp) h
    | ok a =>
      have h' := (andThen_snd_of_ok _ hl).symm.trans h
      cases hb : asBool .or a with
      | error e' =>
        -- the left operand is no boolean
        simpa [visits, hl, hb, bind, Except.bind] using FailedAt.self _ rfl (visits_of_ok hl) h
      | ok b =>
        -- the left operand decides when it is true
        cases b
        · simp only [hb] at h'
          cases hr : (evalAt c env (d + 1) r).2 with
          | error e' =>
            obtain rfl := fault_eq_of_andThen h' hr
            simpa [visits, hl, hb, bind, Except.bind] using
              FailedAt.up _ (ihr hr) rfl (by simp [children]) (visits_of_ok hl) h
          | ok b =>
            -- the right operand is no boolean
            have hok : ∀ p ∈ visits c env (d + 1) l ++ visits c env (d + 1) r,
                (evalAt c env p.2 p.1).2.isOk := fun p hp =>
              (List.mem_append.1 hp).elim (visits_of_ok hl p) (visits_of_ok hr p)
            simpa [visits, hl, hb, bind, Except.bind] using FailedAt.self _ rfl hok h
        · simp [hb] at h'

@[simp] theorem visits_unwrap (d : Nat) (n : Node) :
    visits c env d n.unwrap = visits c env d n := by
  induction n <;> simp_all [unwrap, visits]

/-- A lambda is visited alone; a call of its closure, with as many arguments
    as parameters, visits its body from one level below the lambda, its
    parameters bound to the arguments. -/
theorem call_records {d : Nat} {n : Node} {t : Ty} {ps : List Param} {b : Node}
    (hn : n.unwrap = .lambda t ps b) {args : List Value} (hlen : args.length = ps.length) :
    ∃ f, (evalAt c env d n).2 = .ok f ∧ visits c env d n = [(n.unwrap, d)] ∧
      (f.call c args).1 = (visits c ((ps.zip args).foldl (fun e (p, a) => e.bind p.name a) env)
        (d + 1) b).map (traceOf c ((ps.zip args).foldl (fun e (p, a) => e.bind p.name a) env)) := by
  refine ⟨.closure ps b env d, ?_, ?_, ?_⟩
  · rw [← evalAt_unwrap, hn]
    rfl
  · rw [← visits_unwrap, hn]
    rfl
  · simp [Result.call, hlen, evalAt_records]

/-- An evaluation from the root logs one record for each node it visits, in
    the order they are done, with its kind, its depth and what it gave. A
    successful evaluation evaluated every node it visited; a failed one ends
    with the failing node and its ancestors in turn, each failing with the
    same fault. A lambda is visited alone, and a call of its closure visits
    its body from one level below it. -/
theorem eval_trace (c : Catalog) (env : Env) (n : Node) :
    (eval c env n).1 = (visits c env 1 n).map (traceOf c env) ∧
    (∀ a, (eval c env n).2 = .ok a → ∀ p ∈ visits c env 1 n, (evalAt c env p.2 p.1).2.isOk) ∧
    (∀ e, (eval c env n).2 = .error e → FailedAt c env e n 1 (visits c env 1 n)) ∧
    (∀ t ps b, n.unwrap = .lambda t ps b → ∀ args : List Value, args.length = ps.length →
      ∃ f, (eval c env n).2 = .ok f ∧ visits c env 1 n = [(n.unwrap, 1)] ∧
        (f.call c args).1 = (visits c ((ps.zip args).foldl (fun e (p, a) => e.bind p.name a) env)
          2 b).map (traceOf c ((ps.zip args).foldl (fun e (p, a) => e.bind p.name a) env))) :=
  ⟨evalAt_records 1 n, fun _ h => visits_of_ok h, fun _ h => visits_of_error h,
    fun _ _ _ hn _ hlen => call_records hn hlen⟩

/-- A negation of an unbound parameter fails at the parameter and then at the
    negation, with one fault; a lambda returning its parameter is visited
    alone, and its call visits the parameter one level below. -/
theorem eval_trace_unbound_lambda :
    let x : Param := ⟨"x", .bool, 0⟩
    (∃ e, (eval {} {} (.not (.param x))).2 = .error e ∧
      FailedAt {} {} e (.not (.param x)) 1 [(.param x, 2), (.not (.param x), 1)]) ∧
    (∃ f, (eval {} {} (.lambda .bool [x] (.param x))).2 = .ok f ∧
      (f.call {} [.ofBool true]).1 =
        (visits {} ⟨[("x", .ofBool true)]⟩ 2 (.param x)).map
          (traceOf {} ⟨[("x", .ofBool true)]⟩)) := by
  intro x
  refine ⟨⟨_, rfl, (eval_trace {} {} (.not (.param x))).2.2.1 _ rfl⟩, ?_⟩
  obtain ⟨f, hf, -, hcall⟩ := (eval_trace {} {} (.lambda .bool [x] (.param x))).2.2.2 _ _ _ rfl
    [.ofBool true] rfl
  exact ⟨f, hf, hcall⟩

end Node

end ExprTree
