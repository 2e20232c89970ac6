import ExprTree.Log.Pretty

/-!
# The line of the pretty handler

A pretty handler writes each attribute as it meets it, into one text, with a
blank before every token but the first; the attributes added to a handler
are written when they are added, under the prefix in force then, and the
record's own when it is handled. Whatever the order of the calls, and
whatever groups, dropped or empty attributes they hold, the line is the
tokens of `pairs` joined by single blanks:

* `writeAll_eq_foldl`: writing attributes puts the tokens of `pairs` one
  after another, and `foldl_put` joins such tokens by blanks, none of them
  being empty (`pairs_ne_empty`);
* `handle_eq`: a record's line is its head (time, level, call site,
  message), then the tokens added to the handler, then the record's own;
* `calls_spec`: after any calls of `withGroup` and `withAttrs`, the prefix is
  the one the groups opened build, and the tokens added are each call's
  attributes under the prefix in force at that call.

Main statements: `handle_calls_line`, which also says that adding
attributes to a handler writes the same line as giving them to the record
first; and `textLine_eq_handle`, the logger's line in the pretty form is
the handler's.
-/

namespace ExprTree.Log

open PrettyHandler

/-! ### Tokens joined by blanks -/

theorem put_ne_empty (buf : String) {t : String} (ht : t ≠ "") : put buf t ≠ "" := by
  unfold put
  split
  · exact ht
  · simp

/-- Tokens written one after another after a text are joined by blanks,
    after the text when it is not empty. -/
theorem foldl_put (ts : List String) (buf : String) (hts : ∀ t ∈ ts, t ≠ "") :
    ts.foldl put buf = " ".intercalate ((if buf = "" then [] else [buf]) ++ ts) := by
  induction ts generalizing buf with
  | nil => by_cases hb : buf = "" <;> simp [hb]
  | cons t ts ih =>
    have ht : t ≠ "" := hts t (List.mem_cons_self ..)
    rw [List.foldl_cons, ih (put buf t) fun u hu => hts u (List.mem_cons_of_mem _ hu),
      if_neg (put_ne_empty buf ht)]
    by_cases hb : buf = ""
    · simp [put, hb]
    · simp [put, hb, String.append_assoc]

/-- Writing tokens after a text that is not empty leaves one that is not. -/
theorem foldl_put_ne_empty_of_ne {buf : String} (hb : buf ≠ "") (ts : List String) :
    ts.foldl put buf ≠ "" := by
  induction ts generalizing buf with
  | nil => exact hb
  | cons t ts ih =>
    refine ih ?_
    simp [put, hb]

/-- Tokens, at least one, that are not empty are written as a text that is
    not. -/
theorem foldl_put_ne_empty {ts : List String} (hts : ∀ t ∈ ts, t ≠ "") (hne : ts ≠ []) :
    ts.foldl put "" ≠ "" := by
  obtain ⟨t, ts, rfl⟩ := List.exists_cons_of_ne_nil hne
  exact foldl_put_ne_empty_of_ne (by simpa [put] using hts t (List.mem_cons_self ..)) ts

/-- Tokens written after a text that is not empty come after a blank, unless
    there are none. -/
theorem foldl_put_of_ne_empty {buf : String} (hb : buf ≠ "") (ts : List String)
    (hts : ∀ t ∈ ts, t ≠ "") :
    ts.foldl put buf =
      if ts.foldl put "" = "" then buf else buf ++ " " ++ ts.foldl put "" := by
  rw [foldl_put ts buf hts, foldl_put ts "" hts, if_neg hb]
  cases ts with
  | nil => simp
  | cons t ts =>
    have ht : t ≠ "" := hts t (List.mem_cons_self ..)
    have hj : " ".intercalate (t :: ts) ≠ "" := by
      cases ts <;> simp [ht]
    simp [hj, String.append_assoc]

/-- Tokens written after a text that is not empty, with something before
    it, come after both. -/
theorem foldl_put_append_left (p : String) {x : String} (hx : x ≠ "") (ts : List String) :
    ts.foldl put (p ++ x) = p ++ ts.foldl put x := by
  induction ts generalizing x with
  | nil => rfl
  | cons t ts ih =>
    have hpx : p ++ x ≠ "" := by simp [hx]
    simp only [List.foldl_cons, put, String.isEmpty_iff, hx, hpx, if_false]
    rw [String.append_assoc, String.append_assoc, ← ih (by simp)]
    simp [String.append_assoc]

/-- The text of the attributes added to a handler, after the head `b` of a
    line: more tokens added to it come after the head just as they would be
    written after what it shows. -/
theorem put_added (b : String) (hb : b ≠ "") (x : String) (ts : List String)
    (hts : ∀ t ∈ ts, t ≠ "") :
    (if (ts.foldl put x).isEmpty then b else b ++ " " ++ ts.foldl put x) =
      ts.foldl put (if x.isEmpty then b else b ++ " " ++ x) := by
  by_cases hx : x = ""
  · subst hx
    rw [if_pos (String.isEmpty_iff.mpr rfl), foldl_put_of_ne_empty hb ts hts]
    simp [String.isEmpty_iff]
  · have hy : ts.foldl put x ≠ "" := foldl_put_ne_empty_of_ne hx ts
    simp only [String.isEmpty_iff, hx, hy, if_false]
    rw [foldl_put_append_left _ hx]

/-! ### Writing attributes -/

/-- A value that resolves itself is kept by the configuration's rewriting
    under its own key, or dropped. -/
theorem Config.replace_valuer (cfg : Config) (top : Bool) (k : String) (inner : List Attr) :
    cfg.replace top k (.valuer inner) = none ∨
      cfg.replace top k (.valuer inner) = some (k, .valuer inner) := by
  unfold Config.replace
  split
  · exact .inr rfl
  · split
    · exact .inl rfl
    · split <;> exact .inr rfl

/-- No token of an attribute that is no group is empty: it holds its `=`. -/
theorem valuePairs_ne_empty (c : Catalog) (cfg : Config) (pretty : Bool) (pre k : String)
    (v : AttrValue) : ∀ t ∈ valuePairs c cfg pretty pre k v, t ≠ "" := by
  intro t ht
  unfold valuePairs at ht
  split at ht
  · simp at ht
  · split at ht
    · simp at ht
    · split at ht <;>
      · rw [List.mem_singleton] at ht
        simp [ht]

/-- No token of an attribute is empty. -/
theorem pairs_ne_empty (c : Catalog) (cfg : Config) (pretty : Bool) (pre : String)
    (attrs : List Attr) : ∀ t ∈ pairs c cfg pretty pre attrs, t ≠ "" := by
  induction pre, attrs using pairs.induct cfg pretty
    (fun pre a => ∀ t ∈ attrPairs c cfg pretty pre a, t ≠ "") with
  | case1 pre k inner ih t ht =>
    rw [attrPairs.eq_1] at ht
    exact ih t ht
  | case2 pre k inner hdrop t ht => simp [attrPairs.eq_2, hdrop] at ht
  | case3 pre k inner hkeep ih t ht =>
    rw [attrPairs.eq_2, if_neg hkeep] at ht
    exact ih t ht
  | case4 pre k v hg hv t ht =>
    rw [attrPairs.eq_3 c cfg pretty pre k v hg hv] at ht
    exact valuePairs_ne_empty c cfg pretty pre k v t ht
  | case5 pre => simp [pairs]
  | case6 pre a rest iha ihr =>
    rw [pairs]
    exact List.forall_mem_append.mpr ⟨iha, ihr⟩

theorem writeValue_eq_foldl (c : Catalog) (cfg : Config) (pre buf k : String) (v : AttrValue) :
    writeValue c cfg pre buf k v = (valuePairs c cfg true pre k v).foldl put buf := by
  unfold writeValue valuePairs
  cases cfg.replace pre.isEmpty k v with
  | none => rfl
  | some kv => by_cases he : isEmptyAttr kv.1 kv.2 <;> simp [he, token]

/-- Writing attributes puts their tokens, those of `pairs` in the pretty
    form, one after another. -/
theorem writeAll_eq_foldl (c : Catalog) (cfg : Config) (pre buf : String) (attrs : List Attr) :
    writeAll c cfg pre buf attrs = (pairs c cfg true pre attrs).foldl put buf := by
  induction pre, attrs using pairs.induct cfg true
    (fun pre a => ∀ buf, writeAttr c cfg pre buf a = (attrPairs c cfg true pre a).foldl put buf)
    generalizing buf with
  | case1 pre k inner ih buf => exact ih buf
  | case2 pre k inner hdrop buf =>
    simp only [Bool.true_and, Option.isNone_iff_eq_none] at hdrop
    simp [writeAttr.eq_2, attrPairs.eq_2, hdrop]
  | case3 pre k inner hkeep ih buf =>
    -- the value is written as its group under its own key
    rcases Config.replace_valuer cfg pre.isEmpty k inner with h | h
    · simp [h] at hkeep
    · simp [writeAttr.eq_2, attrPairs.eq_2, h, ih]
  | case4 pre k v hg hv buf =>
    rw [writeAttr.eq_3 c cfg pre buf k v hg hv, attrPairs.eq_3 c cfg true pre k v hg hv]
    exact writeValue_eq_foldl c cfg pre buf k v
  | case5 pre => rfl
  | case6 pre a rest iha ihr => rw [writeAll, ihr, iha, pairs, List.foldl_append]

theorem pairs_append (c : Catalog) (cfg : Config) (pretty : Bool) (pre : String)
    (as bs : List Attr) :
    pairs c cfg pretty pre (as ++ bs) = pairs c cfg pretty pre as ++ pairs c cfg pretty pre bs := by
  induction as with
  | nil => simp [pairs]
  | cons a rest ih => simp [pairs, ih]

/-! ### The line of a record -/

/-- The tokens a line starts with: the time when the layout is not empty,
    the level by its name, the call site when asked for, and the message. -/
def headTokens (cfg : Config) (st : Stamp) (r : Record) : List String :=
  (if cfg.timeLayout.isEmpty then [] else ["time=" ++ Text.block (st.time cfg.timeLayout)]) ++
    ["level=" ++ prettyLevel (levelWord r.level)] ++
    (if cfg.caller then ["source=" ++ Text.block st.source] else []) ++
    ["msg=" ++ Text.block r.msg]

theorem pairs_time (c : Catalog) (cfg : Config) (s : String) :
    pairs c cfg true "" [Attr.str "time" s] =
      if cfg.timeLayout.isEmpty then [] else ["time=" ++ Text.block s] := by
  by_cases h : cfg.timeLayout.isEmpty <;>
  simp [pairs, attrPairs.eq_3, valuePairs, Attr.str, Config.replace, h, isEmptyAttr, prettyValue,
    show Text.block "time" = "time" from rfl]

theorem pairs_level (c : Catalog) (cfg : Config) (l : Level) :
    pairs c cfg true "" [Attr.mk "level" (.level l)] = ["level=" ++ prettyLevel (levelWord l)] := by
  simp [pairs, attrPairs.eq_3, valuePairs, Config.replace, isEmptyAttr, prettyValue, levelWord,
    show Text.block "level" = "level" from rfl]

/-- A text under a key other than `time` and `level`, outside all groups, is
    one token. -/
theorem pairs_str (c : Catalog) (cfg : Config) {k : String} (s : String) (ht : k ≠ "time")
    (hl : k ≠ "level") :
    pairs c cfg true "" [Attr.str k s] = [Text.block k ++ "=" ++ Text.block s] := by
  simp [pairs, attrPairs.eq_3, valuePairs, Attr.str, Config.replace, isEmptyAttr, prettyValue, ht, hl]

theorem headTokens_ne_empty (cfg : Config) (st : Stamp) (r : Record) :
    ∀ t ∈ headTokens cfg st r, t ≠ "" := by
  intro t ht
  simp only [headTokens, List.mem_append] at ht
  rcases ht with ((ht | ht) | ht) | ht
  · split at ht <;> simp_all
  · simp_all
  · split at ht <;> simp_all
  · simp_all

/-- The head of a line, written through the rewriting, is the head tokens. -/
theorem head_eq (c : Catalog) (cfg : Config) (st : Stamp) (r : Record) :
    head c cfg st r = (headTokens cfg st r).foldl put "" := by
  have hsource := pairs_str c cfg st.source (k := "source") (by decide) (by decide)
  have hmsg := pairs_str c cfg r.msg (k := "msg") (by decide) (by decide)
  rw [show Text.block "source" = "source" from rfl] at hsource
  rw [show Text.block "msg" = "msg" from rfl] at hmsg
  unfold head headTokens
  cases cfg.caller <;>
  simp only [writeAll_eq_foldl, pairs_time, pairs_level, hsource, hmsg, Bool.false_eq_true,
    if_true, if_false, List.append_nil, ← List.foldl_append, String.reduceAppend]

/-- A record's line: its head, the tokens `ts` added to the handler, and its
    own attributes' under the prefix in force. -/
theorem handle_eq (c : Catalog) (st : Stamp) (r : Record) (h : PrettyHandler) (ts : List String)
    (hattrs : h.attrs = ts.foldl put "") (hts : ∀ t ∈ ts, t ≠ "") :
    h.handle c st r = " ".intercalate (headTokens h.config st r ++ ts ++
      pairs c h.config true h.pre r.attrs) ++ "\n" := by
  have hhead := headTokens_ne_empty h.config st r
  -- the head is never empty: it holds the level
  have hne : (headTokens h.config st r).foldl put "" ≠ "" :=
    foldl_put_ne_empty hhead (by simp [headTokens])
  -- the attributes added come after a blank, as if written after the head
  have hadded : (if h.attrs.isEmpty then head c h.config st r
      else head c h.config st r ++ " " ++ h.attrs) = (headTokens h.config st r ++ ts).foldl put "" := by
    rw [List.foldl_append, foldl_put_of_ne_empty hne ts hts, head_eq, ← hattrs]
    by_cases he : h.attrs = "" <;> simp [he]
  have hall : ∀ t ∈ headTokens h.config st r ++ ts ++ pairs c h.config true h.pre r.attrs,
      t ≠ "" :=
    List.forall_mem_append.mpr ⟨List.forall_mem_append.mpr ⟨hhead, hts⟩,
      pairs_ne_empty c h.config true h.pre r.attrs⟩
  simp only [handle]
  rw [hadded, writeAll_eq_foldl, ← List.foldl_append, foldl_put _ _ hall]
  simp

/-! ### Calls on a handler -/

/-- A call on a handler: opening a group, or adding attributes. -/
inductive Call where
  | withGroup (name : String)
  | withAttrs (attrs : List Attr)

/-- The handler after calls, in order. -/
def PrettyHandler.calls (c : Catalog) (h : PrettyHandler) : List Call → PrettyHandler
  | [] => h
  | .withGroup name :: cs => (h.withGroup name).calls c cs
  | .withAttrs attrs :: cs => (h.withAttrs c attrs).calls c cs

namespace Call

/-- The key prefix in force after calls, from the prefix `pre`. -/
def prefixAfter (pre : String) : List Call → String
  | [] => pre
  | .withGroup name :: cs => prefixAfter (groupPrefix pre name) cs
  | .withAttrs _ :: cs => prefixAfter pre cs

/-- The tokens of the attributes added by calls from the prefix `pre`: each
    call's attributes under the prefix in force at it. -/
def added (c : Catalog) (cfg : Config) (pre : String) : List Call → List String
  | [] => []
  | .withGroup name :: cs => added c cfg (groupPrefix pre name) cs
  | .withAttrs attrs :: cs => pairs c cfg true pre attrs ++ added c cfg pre cs

end Call

theorem withGroup_pre (name : String) (h : PrettyHandler) :
    (h.withGroup name).pre = groupPrefix h.pre name := by
  unfold withGroup groupPrefix
  split <;> rfl

theorem withGroup_config (name : String) (h : PrettyHandler) :
    (h.withGroup name).config = h.config := by
  unfold withGroup
  split <;> rfl

theorem withGroup_attrs (name : String) (h : PrettyHandler) :
    (h.withGroup name).attrs = h.attrs := by
  unfold withGroup
  split <;> rfl

/-- Calls keep the configuration, build the prefix of the groups they open,
    and add to the tokens `ts` of the handler those of their attributes. -/
theorem calls_spec (c : Catalog) (cs : List Call) (h : PrettyHandler) (ts : List String)
    (hattrs : h.attrs = ts.foldl put "") :
    (h.calls c cs).config = h.config ∧ (h.calls c cs).pre = Call.prefixAfter h.pre cs ∧
      (h.calls c cs).attrs = (ts ++ Call.added c h.config h.pre cs).foldl put "" := by
  induction cs generalizing h ts with
  | nil => simpa [PrettyHandler.calls, Call.prefixAfter, Call.added] using hattrs
  | cons call cs ih =>
    cases call with
    | withGroup name =>
      obtain ⟨h₁, h₂, h₃⟩ := ih (h.withGroup name) ts (by rw [withGroup_attrs, hattrs])
      rw [withGroup_config] at h₁ h₃
      rw [withGroup_pre] at h₂ h₃
      exact ⟨h₁, h₂, h₃⟩
    | withAttrs attrs =>
      -- the attributes are written after the tokens already added
      have hw : (h.withAttrs c attrs).attrs = (ts ++ pairs c h.config true h.pre attrs).foldl put "" := by
        simp only [withAttrs, writeAll_eq_foldl, hattrs, List.foldl_append]
      obtain ⟨h₁, h₂, h₃⟩ := ih (h.withAttrs c attrs) _ hw
      simp only [PrettyHandler.calls, Call.prefixAfter, Call.added]
      refine ⟨h₁, h₂, ?_⟩
      rw [h₃, List.append_assoc]
      rfl

theorem added_ne_empty (c : Catalog) (cfg : Config) (pre : String) (cs : List Call) :
    ∀ t ∈ Call.added c cfg pre cs, t ≠ "" := by
  induction cs generalizing pre with
  | nil => simp [Call.added]
  | cons call cs ih =>
    cases call with
    | withGroup name => exact ih _
    | withAttrs attrs =>
      rw [Call.added]
      exact List.forall_mem_append.mpr ⟨pairs_ne_empty c cfg true pre attrs, ih pre⟩

/-- The line of a pretty handler after any calls of `withGroup` and
    `withAttrs`: the head tokens (time, level, call site, message), then the
    tokens of each call's attributes, under the prefix in force at that call,
    then the record's own under the prefix the calls leave, all joined by
    single blanks and ended by a line feed. And adding attributes to a
    handler writes the same line as giving them to the record before its own. -/
theorem handle_calls_line (cfg : Config) (c : Catalog) (st : Stamp) (cs : List Call) (r : Record) :
    ((new cfg).calls c cs).handle c st r =
      " ".intercalate (headTokens cfg st r ++ Call.added c cfg "" cs ++
        pairs c cfg true (Call.prefixAfter "" cs) r.attrs) ++ "\n" ∧
    ∀ (h : PrettyHandler) (attrs : List Attr) (r : Record),
      (h.withAttrs c attrs).handle c st r = h.handle c st { r with attrs := attrs ++ r.attrs } := by
  refine ⟨?_, fun h attrs r => ?_⟩
  · obtain ⟨h₁, h₂, h₃⟩ := calls_spec c cs (new cfg) [] rfl
    rw [handle_eq c st r _ _ h₃ (added_ne_empty c _ _ cs), h₁, h₂]
    rfl
  · -- both write the head, then the tokens added before, then those of
    -- `attrs`, then the record's own
    have hb : head c h.config st r ≠ "" := by
      rw [head_eq]
      exact foldl_put_ne_empty (headTokens_ne_empty h.config st r) (by simp [headTokens])
    simp only [handle, withAttrs, writeAll_eq_foldl, pairs_append, List.foldl_append]
    rw [put_added _ hb _ _ (pairs_ne_empty c h.config true h.pre attrs)]
    rfl

/-- A message of two lines gives a line of two, and with timestamps off the
    record's own attribute `time` is dropped with the record's time: the
    rewriting sees every attribute outside the groups, and nothing is
    quoted. -/
theorem handle_time_attr_two_lines :
    (new { timeLayout := "" }).handle {} ⟨fun _ => "", ""⟩
      ⟨Level.info, "a\nb", [Attr.str "time" "x"]⟩ = "level=INFO msg=a\nb\n" := by
  decide +kernel

/-- The line a logger writes in the pretty form is the line of the pretty
    handler of its configuration, with its attributes added and then the
    record's group opened. -/
theorem textLine_eq_handle (cfg : Config) (hp : cfg.pretty = true) (c : Catalog) (st : Stamp)
    (preset : List Attr) (group : String) (r : Record) :
    cfg.textLine c st preset group r =
      (((new cfg).withAttrs c preset).withGroup group).handle c st r := by
  obtain ⟨h₁, h₂, h₃⟩ := calls_spec c [.withAttrs preset, .withGroup group] (new cfg) [] rfl
  rw [show ((new cfg).withAttrs c preset).withGroup group =
      (new cfg).calls c [.withAttrs preset, .withGroup group] from rfl,
    handle_eq c st r _ _ h₃ (added_ne_empty _ _ _ _), h₁, h₂]
  simp only [Config.textLine, hp, headTokens, Call.added, Call.prefixAfter, new, if_true,
    List.append_nil, List.append_assoc, List.nil_append, List.cons_append]
  rfl

end ExprTree.Log
