import ExprTree.Command.Run

/-!
# Commands print nothing when they fail

A command writes its answer to standard output once, as its last step: every
failure it can meet (reading the source, the bindings and the arguments,
evaluating the tree and calling a callable result, the dialect, the writers
of YAML and JSON) comes before that write. So a command either succeeds,
having added its answer to what was printed, or fails having printed
nothing.

Two properties of actions carry the proof:

* `Quiet m`: `m` leaves standard output as it found it, however it ends. It
  is kept by `bind`, `tryCatch` and the traversals of lists, and holds of
  reading a source, bindings and arguments, of logging and of settling an
  outcome;
* `WritesLast m`: when `m` fails, standard output is as it was, and in any
  case it has only grown. It holds of `write`, of a quiet action, and of a
  quiet action followed by one that writes last.

Each command is such a sequence (`compile_writesLast`, `eval_writesLast`,
`format_writesLast`, `draw_writesLast`), and `init` writes a file, not the
output, so it is quiet (`init_quiet`): `Invocation.run_fails_quietly`.
-/

namespace ExprTree.Command

variable {α β : Type}

/-- An action that leaves standard output as it found it, however it ends. -/
def Quiet (m : SessionM α) : Prop := ∀ st, (m.run.run st).2.out = st.out

/-- An action that writes to standard output only at its end: when it fails
    the output is as it was, and in any case it has only grown. -/
def WritesLast (m : SessionM α) : Prop :=
  ∀ st, (∀ e, (m.run.run st).1 = .error e → (m.run.run st).2.out = st.out) ∧
    ∃ t, (m.run.run st).2.out = st.out ++ t

/-- A run of `m >>= f` goes on with `f` from the session `m` left, when `m`
    succeeded, and stops there when it failed. -/
theorem run_bind (m : SessionM α) (f : α → SessionM β) (st : Session) :
    (m >>= f).run.run st = match m.run.run st with
      | (.ok a, st') => (f a).run.run st'
      | (.error e, st') => (.error e, st') := by
  simp only [ExceptT.run_bind, StateT.run_bind]
  rcases m.run.run st with ⟨_ | _, st'⟩ <;> rfl

/-- A run of `tryCatch m h` goes on with the handler from the session `m`
    left, when `m` failed. -/
theorem run_tryCatch (m : SessionM α) (h : Fault → SessionM α) (st : Session) :
    (tryCatch m h).run.run st = match m.run.run st with
      | (.ok a, st') => (.ok a, st')
      | (.error e, st') => (h e).run.run st' := by
  show (ExceptT.tryCatch m h).run.run st = _
  simp only [ExceptT.tryCatch, ExceptT.run_mk, StateT.run_bind]
  rw [show StateT.run (m : StateM Session (Except Fault α)) st = m.run.run st from rfl]
  rcases m.run.run st with ⟨_ | _, st'⟩ <;> rfl

namespace Quiet

theorem pure (a : α) : Quiet (Pure.pure a : SessionM α) := fun _ => rfl

theorem throw (e : Fault) : Quiet (MonadExcept.throw e : SessionM α) := fun _ => rfl

theorem get : Quiet (MonadState.get : SessionM Session) := fun _ => rfl

theorem modify {f : Session → Session} (h : ∀ st, (f st).out = st.out) :
    Quiet (MonadState.modifyGet fun st => ((), f st) : SessionM Unit) := h

theorem bind {m : SessionM α} {f : α → SessionM β} (hm : Quiet m) (hf : ∀ a, Quiet (f a)) :
    Quiet (m >>= f) := by
  intro st
  have hst := hm st
  rw [run_bind]
  rcases h : m.run.run st with ⟨_ | a, st'⟩
  · rw [h] at hst
    exact hst
  · rw [h] at hst
    exact (hf a st').trans hst

theorem tryCatch {m : SessionM α} {h : Fault → SessionM α} (hm : Quiet m)
    (hh : ∀ e, Quiet (h e)) : Quiet (tryCatch m h) := by
  intro st
  have hst := hm st
  rw [run_tryCatch]
  rcases hr : m.run.run st with ⟨_ | a, st'⟩
  · rw [hr] at hst
    exact (hh _ st').trans hst
  · rw [hr] at hst
    exact hst

theorem forM {xs : List α} {f : α → SessionM PUnit} (hf : ∀ x, Quiet (f x)) :
    Quiet (xs.forM f) := by
  induction xs with
  | nil => exact pure _
  | cons x xs ih => exact bind (hf x) fun _ => ih

theorem foldlM {f : β → α → SessionM β} (hf : ∀ b a, Quiet (f b a)) (xs : List α) (b : β) :
    Quiet (xs.foldlM f b) := by
  induction xs generalizing b with
  | nil => exact pure b
  | cons x xs ih => exact bind (hf b x) ih

theorem mapM {f : α → SessionM β} (hf : ∀ a, Quiet (f a)) (xs : List α) :
    Quiet (xs.mapM f) := by
  induction xs with
  | nil => exact pure _
  | cons x xs ih =>
    rw [List.mapM_cons]
    exact bind (hf x) fun _ => bind ih fun _ => pure _

end Quiet

/-! ### The quiet steps of the commands -/

theorem logRecord_quiet (r : Log.Record) : Quiet (logRecord r) := Quiet.modify fun _ => rfl

theorem debug_quiet (msg : String) (attrs : List Attr) : Quiet (debug msg attrs) :=
  logRecord_quiet _

theorem decodeTree_quiet (text : String) : Quiet (decodeTree text) := by
  unfold decodeTree
  refine Quiet.bind Quiet.get fun st => ?_
  split
  · exact Quiet.bind (Quiet.modify fun _ => rfl) fun _ => Quiet.pure _
  · exact Quiet.throw _

theorem decodeValue_quiet (text : String) : Quiet (decodeValue text) := by
  unfold decodeValue
  refine Quiet.bind Quiet.get fun st => ?_
  split
  · exact Quiet.bind (Quiet.modify fun _ => rfl) fun _ => Quiet.pure _
  · exact Quiet.pure _

theorem readSource_quiet (source : String) : Quiet (readSource source) := by
  unfold readSource
  refine Quiet.bind Quiet.get fun st => ?_
  split
  · exact decodeTree_quiet _
  · -- a file: a directory and a missing file fail at once, a document is
    -- decoded and its fault marked with the file
    dsimp only
    split
    · exact Quiet.throw _
    · split
      · exact Quiet.throw _
      · exact Quiet.tryCatch (decodeTree_quiet _) fun _ => Quiet.throw _

theorem bindings_quiet (binds : List String) (file : String) : Quiet (bindings binds file) := by
  unfold bindings
  refine Quiet.bind Quiet.get fun st => ?_
  extract_lets bindOne rest fault
  -- one `name=yaml` text: a malformed one fails, else its value is read
  have hbindOne : ∀ env kv, Quiet (bindOne env kv) := by
    intro env kv
    dsimp -zeta only [bindOne]
    extract_lets invalid
    split
    · extract_lets name jp
      have hjp : ∀ u, Quiet (jp u) := fun _ =>
        Quiet.bind (decodeValue_quiet _) fun r => by
          split
          · exact Quiet.pure _
          · exact Quiet.throw _
      split
      · exact Quiet.bind (Quiet.throw _) hjp
      · exact hjp ()
    · exact Quiet.throw _
  have hrest : ∀ fromFile, Quiet (rest fromFile) := fun _ => Quiet.foldlM hbindOne _ _
  -- the bindings file: none, a missing or malformed one, or a mapping read
  split
  · exact Quiet.bind (Quiet.pure _) hrest
  · split
    · exact Quiet.bind (Quiet.throw _) hrest
    · split
      · exact Quiet.bind (Quiet.throw _) hrest
      · exact Quiet.bind (Quiet.modify fun _ => rfl) fun _ => Quiet.bind (Quiet.pure _) hrest

theorem arguments_quiet (args : List String) : Quiet (arguments args) := by
  unfold arguments
  refine Quiet.mapM (fun _ => Quiet.bind (decodeValue_quiet _) fun r => ?_) _
  split
  · exact Quiet.pure _
  · exact Quiet.throw _

theorem settle_quiet (o : Outcome Result) : Quiet (settle o) := by
  unfold settle
  refine Quiet.bind (Quiet.forM logRecord_quiet) fun _ => ?_
  split
  · exact Quiet.pure _
  · exact Quiet.throw _

/-- Writing the configuration file prints nothing. -/
theorem init_quiet (force : Bool) (path : String) (values : List (String × Value)) :
    Quiet (init force path values) := by
  unfold init
  refine Quiet.bind Quiet.get fun st => ?_
  extract_lets fault doc logged save
  -- the file is written, or its text or the write fails, then it is logged
  have hsave : ∀ u, Quiet (save u) := by
    intro u
    dsimp -zeta only [save]
    split
    · exact Quiet.bind (Quiet.throw _) fun _ => debug_quiet _ _
    · split
      · exact Quiet.bind (Quiet.throw _) fun _ => debug_quiet _ _
      · exact Quiet.bind (Quiet.modify fun _ => rfl) fun _ => debug_quiet _ _
  split
  · exact Quiet.bind (Quiet.throw _) hsave
  · exact hsave ()

/-! ### Writing last -/

namespace WritesLast

theorem of_quiet {m : SessionM α} (h : Quiet m) : WritesLast m :=
  fun st => ⟨fun _ _ => h st, "", by rw [h st, String.append_empty]⟩

theorem write (s : String) : WritesLast (Command.write s) :=
  fun _ => ⟨fun _ h => (nomatch h), s, rfl⟩

theorem bind {m : SessionM α} {f : α → SessionM β} (hm : Quiet m) (hf : ∀ a, WritesLast (f a)) :
    WritesLast (m >>= f) := by
  intro st
  have hst := hm st
  rw [run_bind]
  rcases h : m.run.run st with ⟨_ | a, st'⟩
  · rw [h] at hst
    exact ⟨fun _ _ => hst, "", by rw [hst, String.append_empty]⟩
  · rw [h] at hst
    obtain ⟨hfail, t, ht⟩ := hf a st'
    exact ⟨fun e he => (hfail e he).trans hst, t, by rw [ht, hst]⟩

end WritesLast

/-! ### The commands -/

theorem compile_writesLast (dialect : String) (fingerprint : Bool) (source : String) :
    WritesLast (compile dialect fingerprint source) := by
  unfold compile
  refine WritesLast.bind (readSource_quiet _) fun n => WritesLast.bind Quiet.get fun st => ?_
  extract_lets c d number
  -- the compiled text, or the fault of the dialect, comes before the write
  split
  · exact .of_quiet (Quiet.throw _)
  · exact WritesLast.bind (debug_quiet _ _) fun _ => WritesLast.write _

theorem eval_writesLast (binds : List String) (file : String) (args : List String)
    (source : String) : WritesLast (eval binds file args source) := by
  unfold eval
  refine WritesLast.bind (readSource_quiet _) fun n => WritesLast.bind (bindings_quiet _ _)
    fun env => WritesLast.bind (arguments_quiet _) fun vals => WritesLast.bind Quiet.get
    fun st => ?_
  extract_lets c printed
  -- what follows the call: a log record, then the result's YAML text or the
  -- writer's fault
  have hprinted : ∀ r, WritesLast (printed r) := by
    intro r
    dsimp -zeta only [printed]
    refine WritesLast.bind (debug_quiet _ _) fun _ => ?_
    split
    · split
      · exact WritesLast.write _
      · exact .of_quiet (Quiet.throw _)
    · exact .of_quiet (Quiet.throw _)
  -- a callable result is called, any other taken when no argument is given
  refine WritesLast.bind (settle_quiet _) fun r => ?_
  split
  · exact WritesLast.bind (settle_quiet _) hprinted
  · split
    · exact WritesLast.bind (Quiet.pure _) hprinted
    · exact WritesLast.bind (Quiet.throw _) hprinted

theorem format_writesLast (fmt : String) (indent : Int) (source : String) :
    WritesLast (format fmt indent source) := by
  unfold format
  refine WritesLast.bind (readSource_quiet _) fun n => WritesLast.bind Quiet.get fun st => ?_
  extract_lets c doc text
  -- the JSON or YAML text, or its writer's fault, comes before the write
  cases text
  · exact .of_quiet (Quiet.throw _)
  · exact WritesLast.write _

theorem draw_writesLast (source : String) : WritesLast (draw source) := by
  unfold draw
  refine WritesLast.bind (readSource_quiet _) fun n => WritesLast.bind Quiet.get fun st => ?_
  extract_lets c lines
  split
  · exact WritesLast.write _
  · exact .of_quiet (Quiet.pure _)

/-- Every command prints its answer as its last step: a command that fails
    has printed nothing, and one that succeeds has only added to what was
    printed before. -/
theorem Invocation.run_fails_quietly (config : String) (globals : List (String × Value))
    (inv : Invocation) (st : Session) :
    (∀ e, ((inv.run config globals).run.run st).1 = .error e →
      ((inv.run config globals).run.run st).2.out = st.out) ∧
    ∃ t, ((inv.run config globals).run.run st).2.out = st.out ++ t := by
  have h : WritesLast (inv.run config globals) := by
    cases inv with
    | compile d f s => exact compile_writesLast d f s
    | eval b f a s => exact eval_writesLast b f a s
    | format f i s => exact format_writesLast f i s
    | draw s => exact draw_writesLast s
    | init force => exact .of_quiet (init_quiet force config globals)
  exact h st

end ExprTree.Command
