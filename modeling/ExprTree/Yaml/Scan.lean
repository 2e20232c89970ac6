import ExprTree.Yaml.Scanner
import ExprTree.Text.Quote

/-!
# Reading YAML into tokens

A YAML text read character by character into its chain of tokens
(`Yaml.tokenize`). Each character is taken by the rule for it, if its rule
applies where it stands, and is otherwise part of a plain scalar:

* `{`, `}`, `[`, `]` open and close flow collections, `,` separates their
  entries; a plain scalar in flow context ends at them;
* `:` is a delimiter before a blank, a line break or the end, and always in
  a flow mapping unless a `/` follows or a delimiter came just before;
* `-`, `?` are entries and keys before a blank, `<<` a merge key before a
  `:`; `---` and `...` at the start of a line mark documents;
* `&`, `*` begin an anchor or alias whose name runs to a blank, and `!` a tag,
  which after a blank leaves the column one short;
* `#` after a blank begins a comment; `'` and `"` begin quoted scalars, which
  fold their line breaks; `|` and `>` begin block scalars, whose lines are
  read until one is indented no more than the last delimiter; `-` first on
  a line indented more while a plain scalar is gathered reads the scalar on
  as a folded block;
* `@` and the backquote are reserved; a tab cannot indent a line.

A fault does not stop the reading: it becomes a token of the chain, and the
reading starts over where it stood.
-/

namespace ExprTree.Yaml

/-- What a rule for a character did: took it and what followed, left it to
    the plain scalar, or found a fault, with the reader where it stopped. -/
inductive Step where
  | next (s : Scanner)
  | pass
  | fault (s : Scanner) (t : Token)
  deriving Inhabited

namespace Scanner

/-- A fault token with the origin gathered. -/
def faultHere (s : Scanner) (msg : String) : Token :=
  { kind := .invalid msg, value := "", origin := s.origin, pos := s.pos }

/-- `{` or `[`, unless a plain scalar is gathered outside flow context. -/
def scanOpen (s : Scanner) (c : Char) (map : Bool) : Step :=
  if s.hasBuf && !s.inFlow then .pass
  else
    let s := (s.flush.addOrigin c).emitHere (if map then .mappingStart else .sequenceStart)
      (String.singleton c)
    let s := if map then { s with flowMap := s.flowMap + 1 } else { s with flowSeq := s.flowSeq + 1 }
    .next (s.advance 1).clear

/-- `}` or `]`, unless a plain scalar is gathered and no such collection is
    open. -/
def scanClose (s : Scanner) (c : Char) (map : Bool) : Step :=
  if s.hasBuf && (if map then s.flowMap else s.flowSeq) ≤ 0 then .pass
  else
    let s := (s.flush.addOrigin c).emitHere (if map then .mappingEnd else .sequenceEnd)
      (String.singleton c)
    let s := if map then { s with flowMap := s.flowMap - 1 } else { s with flowSeq := s.flowSeq - 1 }
    .next (s.advance 1).clear

/-- `,` in flow context. -/
def scanEntry (s : Scanner) : Step :=
  if !s.inFlow then .pass
  else .next (((s.flush.addOrigin ',').emitHere .collectEntry ",").advance 1).clear

/-- Whether the reader stands at a document marker of three `c` at the
    start of a line, followed by a blank, a line break or the end. -/
def atMarker (s : Scanner) (c : Char) : Bool :=
  s.indentNum == 0 && s.col == 1 && s.rest.take 3 == [c, c, c] &&
    match s.rest[3]? with
    | none => true
    | some d => isBlank d || isBreak d

/-- `---` or `...`: a document starts or ends, and indentation starts over. -/
def scanMarker (s : Scanner) (c : Char) (kind : TokenKind) : Step :=
  if !s.atMarker c then .pass
  else
    let s := (s.flush.addOrigins [c, c, c]).emitHere kind (String.ofList [c, c, c])
    .next { (s.advance 3).clear with lastDelim := 0, indentNum := 0 }

/-- Whether the characters after `<<` make it a merge key: blanks, then a
    `:` followed by a blank or a line break. -/
def mergeTail : List Char → Bool
  | ' ' :: r => mergeTail r
  | ':' :: c :: r => if c == ' ' || isBreak c then true else mergeTail (c :: r)
  | _ => false

/-- `<<` as a merge key. -/
def scanMergeKey (s : Scanner) : Step :=
  match s.rest with
  | '<' :: '<' :: r =>
    if s.hasBuf || r.head? == some '<' || !mergeTail r then .pass
    else
      let t : Token := { kind := .mergeKey, value := "<<", origin := s.origin ++ "<<", pos := s.pos }
      .next ({ s.emit t with lastDelim := s.col }.advance 2).clear
  | _ => .pass

/-- Whether the origin gathered starts with a tab, after at most one blank. -/
def tabLead (s : Scanner) : Bool :=
  let o := match s.obuf.toList with
    | ' ' :: r => r
    | cs => cs
  o.head? == some '\t'

/-- `-` as the entry of a block sequence, before a blank, a line break or the
    end; after a tab that leads the origin it is a fault. -/
def scanSequence (s : Scanner) : Step :=
  let entry := match s.peek 1 with
    | none => true
    | some c => isBlank c || isBreak c
  if s.hasBuf || !entry then .pass
  else if s.tabLead then
    .fault (s.advance 1) (s.faultHere "tab character cannot use as a sequence delimiter")
  else
    let s := (s.addOrigin '-').emitHere .sequenceEntry "-"
    .next ({ s with lastDelim := s.col }.advance 1).clear

/-- `?` as an explicit key, before a blank. -/
def scanMapKey (s : Scanner) : Step :=
  let key := match s.peek 1 with
    | some c => isBlank c
    | none => false
  if s.hasBuf || !key then .pass
  else
    let t : Token := { kind := .mappingKey, value := "?", origin := "?", pos := s.pos }
    .next ({ s.emit t with lastDelim := s.col }.advance 1).clear

/-- `:` as the delimiter after a key (see the module header). A key that
    starts with a tab is a fault. -/
def scanMapDelim (s : Scanner) : Step :=
  let nc := s.peek 1
  let ends := match nc with
    | none => true
    | some c => isBlank c || isBreak c
  let afterDelim := match s.lastToken? with
    | some t => t.kind == .mappingValue
    | none => false
  let tabKey := s.tabLead && s.buf.toList.head? != some '\t'
  if s.inDirective || s.inAnchor || s.inAlias then .pass
  else if s.flowMap ≤ 0 && !ends then .pass
  else if s.flowMap > 0 && nc == some '/' then .pass
  else if s.flowMap > 0 && afterDelim then .pass
  else if tabKey then .fault (s.advance 1) (s.faultHere "tab character cannot use as a map key directly")
  else
    let s := match s.takeScalar with
      | (some t, s) => { s.emit t with lastDelim := t.pos.col }
      | (none, s) => match s.lastToken? with
        | some t => if t.kind == TokenKind.single || t.kind == TokenKind.double then { s with lastDelim := t.pos.col } else s
        | none => s
    let t : Token := { kind := .mappingValue, value := ":", origin := ":", pos := s.pos }
    .next ((s.emit t).advance 1).clear

/-- `!` begins a tag, which runs to a blank, a line break or, in flow
    context, a comma. The column after it is one short of where the reader
    stands; a tag at the end of the text is dropped. -/
def scanTag (s : Scanner) : Step :=
  if s.hasBuf || s.inDirective then .pass
  else
    let s := (s.addOrigin '!').skip 1
    let body := s.rest
    let stop := body.findIdx? fun c =>
      c == ' ' || (c == ',' && s.inFlow) || isBreak c || c == '{' || c == '}'
    match stop with
    | none => .next ((s.addOrigins body).advance body.length).clear
    | some i =>
      let name := body.take i
      let value := String.ofList ('!' :: name)
      let c := body.getD i ' '
      if c == '{' || c == '}' then
        let s := ((s.addOrigins name).addOrigin c).advance (i + 1)
        .fault s (s.faultHere ("found invalid tag character " ++ Text.quoteRune c.toNat))
      else
        let s := s.addOrigins name
        let s := if c == ',' then s else s.addOrigin c
        let s := s.emitHere .tag value
        .next (s.advance (if c == ' ' then i + 1 else i)).clear

/-- `&` or `*`: an anchor or alias, whose name follows. -/
def scanAnchor (s : Scanner) (c : Char) (anchor : Bool) : Step :=
  if s.hasBuf then .pass
  else
    let s := (s.flush.addOrigin c).emitHere (if anchor then .anchor else .reference) (String.singleton c)
    let s := s.advance 1
    .next (if anchor then { s with inAnchor := true } else { s with inAlias := true }).clear

/-- `%` at the start of a line begins a directive. -/
def scanDirective (s : Scanner) : Step :=
  if s.hasBuf || s.indentNum != 0 then .pass
  else
    let s := (s.addOrigin '%').emitHere .directive "%"
    .next { (s.advance 1).clear with inDirective := true }

/-- `#` begins a comment, at the start or after a blank or a line break; its
    origin takes the line break that ends it. -/
def scanComment (s : Scanner) : Step :=
  if s.hasBuf && !(isBlank s.prev || isBreak s.prev) then .pass
  else
    let s := (s.flush.addOrigin '#').advance 1
    let body := s.rest
    match body.findIdx? isBreak with
    | some i =>
      let s := (s.addOrigins (body.take (i + 1))).emitHere .comment (String.ofList (body.take i))
      .next ((s.advance i).newLine).clear
    | none =>
      let s := (s.addOrigins body).emitHere .comment (String.ofList body)
      .next ((s.advance body.length).newLine).clear

/-- `@` or the backquote where a token starts: a fault. -/
def scanReserved (s : Scanner) (c : Char) : Step :=
  if s.hasBuf then .pass
  else
    let s := s.addOrigin c
    .fault (s.advance 1) (s.faultHere (Text.quoteRune c.toNat ++ " is a reserved character"))

/-- A line break: the plain scalar gathered takes a blank, or a line break
    after an empty line; it becomes a token at the end of the text and after
    the name of an anchor, alias or directive. A carriage return before a
    line feed goes with it. -/
def scanNewLine (s : Scanner) (c : Char) : Scanner :=
  let s := if s.buf.size > 0 && s.savedPos.isNone then
      { s with savedPos := some ⟨s.line, s.col - s.bufKeep⟩ } else s
  let s := if s.obuf.size > s.obufKeep then
      { s with obuf := s.obuf.extract 0 s.obufKeep, buf := s.buf.extract 0 s.bufKeep } else s
  let (s, c) := if c == '\r' && s.peek 1 == some '\n' then ((s.addOrigin '\r').skip 1, '\n')
    else (s, c)
  let s := if s.rest.length ≤ 1 || s.inAnchor || s.inAlias || s.inDirective then s.flush else s
  let s := if s.hasBuf && s.firstChar then
      (if s.buf.back? == some ' ' then { s with buf := s.buf.pop.push '\n' }
       else { s with buf := s.buf.push '\n' })
    else s.addBuf ' '
  (s.addOrigin c).newLine

/-- A blank: indentation at the start of a line; it ends the name of an
    anchor, alias or directive, a blank after an anchor or alias being read
    again as an ordinary one. -/
def scanWhiteSpace (s : Scanner) : Step :=
  if !s.inAnchor && !s.inDirective && !s.inAlias && !s.firstChar then .pass
  else if s.firstChar then .next ((s.advance 1).addOrigin ' ')
  else if s.inDirective then .next ((s.flush.advance 1).addOrigin ' ')
  else .next { s.flush with inAnchor := false, inAlias := false }

/-- A tab at the start of a line outside flow context: a fault at or left
    of the last delimiter; otherwise it counts as indentation without taking
    a column. -/
def scanTab (s : Scanner) : Step :=
  if s.inFlow || !s.firstChar then .pass
  else if s.lastDelim ≥ s.col then
    let s := s.addOrigin '\t'
    .fault (s.advance 1) (s.faultHere "found character '\t' that cannot start any token")
  else .next { (s.addOrigin '\t').skip 1 with indentNum := s.indentNum + 1 }

/-! ## Quoted scalars -/

/-- Whether the characters after a line break in a quoted scalar start a
    document marker. -/
def separatorAhead (cs : List Char) : Bool :=
  if cs.length < 3 then false
  else
    let m := if cs.length == 3 then cs else (cs.take 4).reverse.dropWhile (fun c => isBlank c || isBreak c) |>.reverse
    m == ['-', '-', '-'] || m == ['.', '.', '.']

/-- The weight of a character as a hex digit: its value for a hex digit,
    and its distance from `0` otherwise, which may be negative. -/
def hexWeight (c : Char) : Int :=
  if 'A' ≤ c && c ≤ 'F' then c.toNat - 'A'.toNat + 10
  else if 'a' ≤ c && c ≤ 'f' then c.toNat - 'a'.toNat + 10
  else (c.toNat : Int) - '0'.toNat

/-- The number written by characters as hex digits, each weighed by
    `hexWeight`. -/
def hexSum (cs : List Char) : Int := cs.foldl (fun acc c => acc * 16 + hexWeight c) 0

/-- The character of a code point, U+FFFD for a negative code, a surrogate
    or beyond. -/
def charOf (n : Int) : Char :=
  if n < 0 then '�' else if n.toNat.isValidChar then Char.ofNat n.toNat else '�'

/-- The character of a one-letter escape. -/
def simpleEscape : Char → Option Char
  | '0' => some '\x00'
  | 'a' => some '\x07'
  | 'b' => some '\x08'
  | 't' => some '\t'
  | '\t' => some '\t'
  | 'n' => some '\n'
  | 'v' => some '\x0b'
  | 'f' => some '\x0c'
  | 'r' => some '\r'
  | 'e' => some '\x1b'
  | '"' => some '"'
  | '/' => some '/'
  | '\\' => some '\\'
  | 'N' => some '\u0085'
  | '_' => some '\u00a0'
  | 'L' => some '\u2028'
  | 'P' => some '\u2029'
  | _ => none

/-- The text of a quoted scalar so far (reversed), without the blanks at
    its end. -/
def trimValue (acc : List Char) : List Char := acc.dropWhile (· == ' ')

/-- What reading the body of a quoted scalar gave: its token and the reader
    after it, or a fault. -/
inductive Quoted where
  | done (s : Scanner) (t : Token)
  | fault (s : Scanner) (t : Token)
  deriving Inhabited

/-- Read the body of a quoted scalar (`double` for double quotes), its
    characters so far `acc` reversed; `first` at the start of a continuation
    line, `onNext` when the reader stands on the next character already.
    Line breaks fold to a blank, or to a line break after an empty line, the
    blanks before them dropped. In a double-quoted scalar a tab
    with only blanks after it on its line is dropped with them, unread; a
    tab before anything else but the closing quote takes two columns, and
    as many characters as there were such tabs are passed over after the
    closing quote, unread. A double-quoted scalar takes
    escapes, a numeric one reading a fixed count
    of characters as hex digits, each weighed by `hexWeight`, if enough are
    left: two after `\x` (else the `x` stands for itself), four after `\u`,
    a second `\u` after a high surrogate, and eight after `\U`. -/
def quotedLoop (double : Bool) (start : Pos) :
    Nat → Scanner → List Char → Bool → Bool → Nat → Quoted
  | 0, s, _, _, _, _ => .fault s (s.faultHere "quoted scalar too long")
  | fuel + 1, s, acc, first, onNext, tabs =>
    let s := if onNext then s else s.advance 1
    let kindName := if double then "double" else "single"
    match s.rest with
    | [] =>
      let s := s.advance 1
      .fault s { kind := .invalid ("could not find end character of " ++ kindName ++ "-quoted text"),
                 value := "", origin := s.origin, pos := start }
    | c :: r =>
      let s := s.addOrigin c
      if isBreak c then
        let acc := (if first then '\n' else ' ') :: trimValue acc
        let s := s.newLine
        if !r.isEmpty && separatorAhead r then
          .fault s (s.faultHere "found unexpected document separator")
        else quotedLoop double start fuel s acc true true tabs
      else if first && c == ' ' then quotedLoop double start fuel s acc first false tabs
      else if first && c == '\t' then
        if s.lastDelim ≥ s.col then
          .fault s (s.faultHere ("tab character cannot be used for indentation in " ++ kindName ++
            "-quoted text"))
        else quotedLoop double start fuel s acc first false tabs
      else if double && c == '\\' then
        match r with
        | [] => quotedLoop double start fuel s ('\\' :: acc) false false tabs
        | nc :: r2 =>
          let size := r.length + 1
          if nc == 'x' then
            if size ≤ 3 then
              quotedLoop double start fuel ((s.addOrigin 'x').advance 1) ('x' :: acc) false false tabs
            else
              quotedLoop double start fuel (s.advance 3) (charOf (hexSum (r2.take 2)) :: acc) false false
                tabs
          else if nc == 'u' then
            if size ≤ 5 then .fault s (s.faultHere "not enough length for escaped UTF-16 character")
            else
              let high := hexSum (r2.take 4)
              if 0xD800 ≤ high && high ≤ 0xDBFF then
                if size ≤ 11 then .fault s (s.faultHere "not enough length for escaped UTF-16 surrogate pair")
                else if (r2.drop 4).take 2 != ['\\', 'u'] then
                  .fault s (s.faultHere
                    "found unexpected character after high surrogate for UTF-16 surrogate pair")
                else
                  let low := hexSum ((r2.drop 6).take 4)
                  if low < 0xDC00 || 0xDFFF < low then
                    .fault s (s.faultHere "found unexpected low surrogate after high surrogate")
                  else
                    let code := 0x10000 + (high - 0xD800) * 0x400 + (low - 0xDC00)
                    quotedLoop double start fuel (s.advance 11) (charOf code :: acc) false false tabs
              else quotedLoop double start fuel (s.advance 5) (charOf high :: acc) false false tabs
          else if nc == 'U' then
            if size ≤ 9 then .fault s (s.faultHere "not enough length for escaped UTF-32 character")
            else
              quotedLoop double start fuel (s.advance 9) (charOf (hexSum (r2.take 8)) :: acc) false false
                tabs
          else if nc == ' ' then quotedLoop double start fuel s acc false false tabs
          else if isBreak nc then
            let s := (s.addOrigin nc).advance 1
            let s := if nc == '\r' && r2.head? == some '\n' then (s.addOrigin '\n').skip 1 else s
            quotedLoop double start fuel s.newLine acc true true tabs
          else match simpleEscape nc with
            | some ch =>
              quotedLoop double start fuel ((s.addOrigin nc).advance 1) (ch :: acc) false false tabs
            | none =>
              let s := s.advance 1
              .fault s (s.faultHere ("found unknown escape character " ++ Text.quoteRune nc.toNat))
      else if !double && c == '\'' && r.head? == some '\'' then
        quotedLoop double start fuel ((s.addOrigin '\'').advance 1) ('\'' :: acc) false false tabs
      else if double && c == '\t' then
        let ahead := r.takeWhile (fun ch => !isBreak ch)
        if ahead.all isBlank then quotedLoop double start fuel (s.advance ahead.length) acc false false tabs
        else if r.head? == some '"' then quotedLoop double start fuel s ('\t' :: acc) false false tabs
        else quotedLoop double start fuel { s with col := s.col + 1 } ('\t' :: acc) false false (tabs + 1)
      else if c != (if double then '"' else '\'') then
        quotedLoop double start fuel s (c :: acc) false false tabs
      else
        let t : Token := { kind := if double then .double else .single,
                           value := String.ofList acc.reverse, origin := s.origin, pos := start }
        .done ((s.advance 1).skip tabs) t

/-- `'` or `"` where a token starts: a quoted scalar. -/
def scanQuote (s : Scanner) (c : Char) : Step :=
  if s.hasBuf then .pass
  else
    let s := s.addOrigin c
    match quotedLoop (c == '"') s.pos (s.rest.length + 1) s [] false false 0 with
    | .done s t => .next (s.emit t).clear
    | .fault s t => .fault s t

/-! ## Block scalars -/

/-- `|` or `>` where a token starts: the header of a block scalar, to the
    end of its line, with its indentation and chomping; a comment may end
    it. An indentation of 0 or beyond 9 is a fault. -/
def scanBlockHeader (s : Scanner) (c : Char) : Step :=
  if s.hasBuf then .pass
  else
    let s := (s.addOrigin c).skip 1
    let body := s.rest
    -- the characters to the line break, a carriage return before a line feed
    -- going with it
    let brk := body.zipIdx.find? fun (ch, i) =>
      isBreak ch && !(ch == '\r' && body[i + 1]? == some '\n')
    let progress := match brk with
      | some (_, i) => i
      | none => body.length - 1
    let crlf := match brk with
      | some (_, i) => i > 0 && body[i - 1]? == some '\r'
      | none => false
    let line := body.take (if crlf then progress - 1 else progress)
    let s := s.addOrigins (body.take (progress + 1))
    let value := (line.reverse.dropWhile (· == ' ')).reverse
    let commentAt := value.idxOf '#'
    let opt := if commentAt > 0 && commentAt < value.length then value.take commentAt else value
    let opt := String.ofList (opt.reverse.dropWhile isBlank).reverse
    if !opt.isEmpty && !headerValid opt then
      let t := s.faultHere ("invalid header option: " ++ Text.quote opt)
      .fault (s.advance progress) t
    else
      let s := if s.col == 1 then { s with lastDelim := 1 } else s
      let obuf := s.obuf.toList
      let inOrigin := obuf.idxOf '#'
      let hasComment := inOrigin > 0 && inOrigin < obuf.length
      let headerText := if hasComment then obuf.take inOrigin else obuf
      let t : Token := { kind := if c == '|' then .literal else .folded,
                         value := String.ofList (c :: opt.toList), origin := String.ofList headerText,
                         pos := s.pos }
      let s := s.emit t
      let s := if hasComment then
          s.emit { kind := .comment, value := String.ofList (value.drop (commentAt + 1)),
                   origin := String.ofList (obuf.drop inOrigin),
                   pos := { s.pos with col := s.col + headerText.length } }
        else s
      let indent := match headerIndent opt with
        | some n => if n > 0 then s.lastDelim + n.toNat else 0
        | none => 0
      let b : BlockScan := { literal := c == '|', chomp := .ofHeader opt, firstIndent := indent }
      .next ({ (s.advance progress).clear with indent := .keep, block := some b }.newLine)

/-- A character of the lines of a block scalar: indentation, text, or a line
    break; at the end of the text the lines become a token. A tab in the
    indentation, text indented less than a line of blanks before it, or less
    than the header asks, is a fault. -/
def scanBlockChar (s : Scanner) (b : BlockScan) (c : Char) : Step :=
  let s := s.addOrigin c
  let (s, c) := if c == '\r' && s.peek 1 == some '\n' then ((s.addOrigin '\n').skip 1, '\n')
    else (s, c)
  if s.rest.length ≤ 1 then
    let b := b.meet s.col
    if b.firstIndent > b.lineIndent then
      .fault (s.advance 1) (s.faultHere "invalid number of indent is specified in the multi-line header")
    else
      let t := s.blockToken b false s.pos
      .next { ((s.emit t).clear.advance 1) with block := none }
  else if isBreak c then
    let b := { b with spaceOnly := if b.firstIndent == 0 then s.col - 1 else b.spaceOnly, lineIndent := 0 }
    .next { s.newLine with block := some b }
  else if s.firstChar && c == ' ' then .next (s.advance 1)
  else if s.firstChar && c == '\t' && b.isIndentColumn s.col then
    .fault (s.advance 1) (s.faultHere "found a tab character where an indentation space is expected")
  else if c == '\t' && !b.isIndentColumn s.col then .next (s.advance 1)
  else if b.firstIndent == 0 && b.spaceOnly > s.col then
    .fault (s.advance 1) (s.faultHere "invalid number of indent is specified after space only")
  else
    let b := b.meet s.col
    if b.firstIndent > b.lineIndent then
      .fault (s.advance 1) (s.faultHere "invalid number of indent is specified in the multi-line header")
    else
      let s := if b.firstIndent > 1 then { s with lastDelim := b.firstIndent - 1 } else s
      .next { s.advance 1 with block := some b }

/-- The block scalar being read ends at a line indented less: its lines
    become a token, an empty text when it has none; a block scalar at the
    first column cannot end so. -/
def endBlock (s : Scanner) (b : BlockScan) : Except (Scanner × Token) Scanner :=
  let hasLines := s.obuf.any (· != ' ')
  let breaks := s.obuf.toList.count '\n'
  let contentLines := (blockLines (b.firstIndent - 1) true s.obuf.toList).filter (!·.isEmpty)
  let p : Pos := ⟨s.line - breaks, if contentLines.length ≤ 1 then b.firstIndent else 0⟩
  let s := if hasLines then (s.emit (s.blockToken b true p)).clear else s
  let s := { s with block := none }
  match s.lastToken? with
  | some t =>
    if t.pos.col == 1 then .error (s, s.faultHere "could not find multi-line content")
    else if t.kind != .text then .ok (s.emit { kind := .text, value := "", origin := "", pos := s.pos })
    else .ok s
  | none => .ok s

/-! ## Folded plain scalars -/

/-- `-` first on a line indented more while a plain scalar is gathered: the
    scalar is read on as a folded block from this column, the tabs it
    gathered so far left out. -/
def scanFold (s : Scanner) : Step :=
  if !s.hasBuf || s.indent != .up then .pass
  else
    let buf := (s.buf.filter (· != '\t')).push '-'
    let f : FoldScan := { firstIndent := s.col, lineIndent := s.col }
    .next { (s.addOrigin '-').advance 1 with buf, bufKeep := buf.size, fold := some f }

/-- Text met on a line after a line break: the break becomes a blank when
    the line starts in the column of the line before, and an empty line
    before a line in the column of the last line of text counts one line
    break less. -/
def foldBreak (s : Scanner) (f : FoldScan) : Scanner :=
  if !f.broken then s
  else
    let n := s.buf.size
    let last := s.buf[n - 1]?
    let before := if n > 1 then s.buf[n - 2]? else none
    if f.lineIndent == f.prevIndent then
      if last == some '\n' && before != some '\n' then { s with buf := s.buf.set! (n - 1) ' ' } else s
    else if f.prevIndent == 0 && f.textIndent == s.col then
      if last == some '\n' && before == some '\n' then { s with buf := s.buf.pop, bufKeep := n - 1 }
      else s
    else s

/-- A character of a folded plain scalar: indentation, text, or a line
    break; at the end of the text the scalar becomes a token. A tab in the
    indentation, or text left of the `-` that began the folding, is a
    fault. -/
def scanFoldChar (s : Scanner) (f : FoldScan) (c : Char) : Step :=
  let s := s.addOrigin c
  let (s, c) := if c == '\r' && s.peek 1 == some '\n' then ((s.addOrigin '\n').skip 1, '\n')
    else (s, c)
  let lineFault := "invalid number of indent is specified in the multi-line header"
  if s.rest.length ≤ 1 then
    let s := if s.firstChar && c == ' ' then (if f.firstIndent ≤ s.col then s.addBuf ' ' else s)
      else s.addBuf c
    let f := { f with lineIndent := if f.lineIndent == 0 then s.col else f.lineIndent }
    if f.firstIndent > f.lineIndent then .fault (s.advance 1) (s.faultHere lineFault)
    else
      let t : Token := { kind := .text, value := foldedValue s.bufText, origin := s.origin, pos := s.pos }
      .next { ((s.emit t).clear.advance 1) with fold := none, savedPos := none }
  else if isBreak c then
    let f := { f with prevIndent := f.lineIndent, broken := true, lineIndent := 0,
                      textIndent := if f.lineIndent != 0 then f.lineIndent else f.textIndent }
    .next { (s.addBuf '\n').newLine with fold := some f }
  else if s.firstChar && c == ' ' then
    let s := if f.firstIndent ≤ s.col then s.addBuf ' ' else s
    .next (s.advance 1)
  else if s.firstChar && c == '\t' && s.col < f.firstIndent then
    .fault (s.advance 1) (s.faultHere "found a tab character where an indentation space is expected")
  else if c == '\t' then .next ((s.addBufTab c).advance 1)
  else
    let f := { f with lineIndent := if f.lineIndent == 0 then s.col else f.lineIndent }
    if f.firstIndent > f.lineIndent then .fault (s.advance 1) (s.faultHere lineFault)
    else
      let s := if f.firstIndent > 1 then { s with lastDelim := f.firstIndent - 1 } else s
      let s := s.foldBreak f
      .next { ((s.addBufTab c).advance 1) with fold := some { f with broken := false } }

/-- The folded plain scalar ends at a line indented less: it becomes a
    token, which cannot stand at the first column. -/
def endFold (s : Scanner) : Except (Scanner × Token) Scanner :=
  let s := { s.flush with fold := none }
  match s.lastToken? with
  | some t =>
    if t.pos.col == 1 then .error (s, s.faultHere "could not find multi-line content")
    else if t.kind != .text then .ok (s.emit { kind := .text, value := "", origin := "", pos := s.pos })
    else .ok s
  | none => .ok s

/-! ## The reading -/

/-- The rule for a character outside block scalars, the plain scalar taking
    it when no rule does. -/
def dispatch (s : Scanner) (c : Char) : Step :=
  let r : Step := match c with
    | '{' => s.scanOpen c true
    | '[' => s.scanOpen c false
    | '}' => s.scanClose c true
    | ']' => s.scanClose c false
    | ',' => s.scanEntry
    | '.' => s.scanMarker '.' .documentEnd
    | '<' => s.scanMergeKey
    | '-' => match s.scanMarker '-' .documentHeader with
      | .pass => match s.scanFold with
        | .pass => s.scanSequence
        | r => r
      | r => r
    | ':' => s.scanMapDelim
    | '|' | '>' => s.scanBlockHeader c
    | '!' => s.scanTag
    | '%' => s.scanDirective
    | '?' => s.scanMapKey
    | '&' => s.scanAnchor c true
    | '*' => s.scanAnchor c false
    | '#' => s.scanComment
    | '\'' | '"' => s.scanQuote c
    | '\r' | '\n' => .next (s.scanNewLine c)
    | ' ' => s.scanWhiteSpace
    | '\t' => s.scanTab
    | '@' | '`' => s.scanReserved c
    | _ => .pass
  match r with
  | .pass => .next (((s.addBuf c).addOrigin c).advance 1)
  | r => r

/-- One character: its line's indentation, the end of a block scalar, a
    folded or a plain scalar when it goes down, then its rule. -/
def step (s : Scanner) (c : Char) : Step :=
  let s := s.updateIndent c
  let down := s.indent == .down
  match s.block with
  | some b =>
    if down then
      match s.endBlock b with
      | .ok s => s.dispatch c
      | .error (s, t) => .fault s t
    else s.scanBlockChar b c
  | none => match s.fold with
    | some f =>
      if down then
        match s.endFold with
        | .ok s => s.dispatch c
        | .error (s, t) => .fault s t
      else s.scanFoldChar f c
    | none => (if down then s.flush else s).dispatch c

/-- Read to the end, each fault added to the chain and the reading started
    over where it stopped, with nothing gathered. -/
def run : Nat → Scanner → Scanner
  | 0, s => s
  | fuel + 1, s =>
    match s.rest with
    | [] => s.flush
    | c :: _ =>
      match s.step c with
      | .next s => run fuel s
      | .pass => run fuel s
      | .fault s t =>
        let s := s.emit t
        run fuel { s.clear with ctxStart := s.tokens.size, block := none, fold := none }

end Scanner

/-- The chain of tokens of a YAML text (see the module header). -/
def tokenize (text : String) : Array Token :=
  (Scanner.run (3 * text.length + 3) { rest := text.toList }).tokens

end ExprTree.Yaml
