import XmlBinding.Pattern.Basic
import XmlBinding.Pattern.Token

/-!
This module contains the reader of regular expressions.
-/

namespace XmlBinding.Pattern

open Text

def Flag.ofChar? (c : Char) : Option Flag :=
  if c == 'i' then some .ignoreCase
  else if c == 'L' then some .locale
  else if c == 'm' then some .multiline
  else if c == 's' then some .dotAll
  else if c == 'x' then some .verbose
  else if c == 'a' then some .ascii
  else if c == 't' then some .template
  else if c == 'u' then some .unicode
  else none

/-- The flags about which characters are letters exclude one another. -/
def Flag.isType (f : Flag) : Bool :=
  f == .ascii || f == .locale || f == .unicode

def dialectOf (flags : List Flag) : Dialect :=
  ⟨flags.contains .ignoreCase, flags.contains .ascii⟩

def combineFlags (flags on off : List Flag) : List Flag :=
  let flags := if on.any Flag.isType then flags.filter (!·.isType) else flags
  (flags ++ on).filter (!off.contains ·)

def isOctal (c : Char) : Bool :=
  '0' ≤ c && c ≤ '7'

def isHex (c : Char) : Bool :=
  (hexValue? c).isSome

def ofBase (base : Nat) (ds : List Char) : Nat :=
  ds.foldl (fun n d => base * n + (hexValue? d).getD 0) 0

/-- Groups have numbers below this one. -/
def groupLimit : Nat := 1073741823

/-- Repetitions have bounds below this one. -/
def repetitionLimit : Nat := 4294967295

def controlEscape? (c : Char) : Option Nat :=
  if c == 'a' then some 7
  else if c == 'b' then some 8
  else if c == 'f' then some 12
  else if c == 'n' then some 10
  else if c == 'r' then some 13
  else if c == 't' then some 9
  else if c == 'v' then some 11
  else if c == '\\' then some 92
  else none

def categoryEscape? (c : Char) : Option SetItem :=
  if c == 'd' then some (.category .digit false)
  else if c == 'D' then some (.category .digit true)
  else if c == 's' then some (.category .space false)
  else if c == 'S' then some (.category .space true)
  else if c == 'w' then some (.category .word false)
  else if c == 'W' then some (.category .word true)
  else none

def anchorEscape? (ascii : Bool) (c : Char) : Option Anchor :=
  if c == 'A' then some .start
  else if c == 'Z' then some .stop
  else if c == 'b' then some (.boundary ascii false)
  else if c == 'B' then some (.boundary ascii true)
  else none

def badEscape {α : Type} (escape : List Char) : ReadM α :=
  fail (.badEscape (String.ofList escape)) escape.length

def hexEscape (lead : Char) (width : Nat) : ReadM Nat := do
  let ds ← takeWhile isHex width
  let escape := '\\' :: lead :: ds
  if ds.length != width then
    fail (.incompleteEscape (String.ofList escape)) escape.length
  else
    let n := ofBase 16 ds
    if 0x110000 ≤ n then badEscape escape else return n

/-- The code of a character given by name. No names are known. -/
def namedEscape : ReadM Nat := do
  if ← accept '\x7b' then
    let name ← takeName '\x7d' "character name" ((← get).tokens.length + 1)
    fail (.unknownCharacterName (String.ofList name)) (name.length + 4)
  else
    fail .missingBrace 0

def octalCode (escape : List Char) : ReadM Nat := do
  let n := ofBase 8 (escape.drop 1)
  if 0o377 < n then
    fail (.octalTooLarge (String.ofList escape)) escape.length
  else
    return n

/-- The escapes by code that mean the same inside and outside of sets. -/
def codeEscape? (c : Char) : Option (ReadM Nat) :=
  if c == 'x' then some (hexEscape 'x' 2)
  else if c == 'u' then some (hexEscape 'u' 4)
  else if c == 'U' then some (hexEscape 'U' 8)
  else if c == 'N' then some namedEscape
  else none

/-- An escaped character that has no meaning of its own stands for itself, unless it is a letter. -/
def selfEscape (c : Char) : ReadM Nat :=
  if c.isAlpha then badEscape ['\\', c] else return c.toNat

def setEscape (c : Char) : ReadM SetItem := do
  match controlEscape? c, categoryEscape? c, codeEscape? c with
  | some n, _, _ => return .code n
  | none, some item, _ => return item
  | none, none, some read => return .code (← read)
  | none, none, none =>
    if isOctal c then
      return .code (← octalCode ('\\' :: c :: (← takeWhile isOctal 2)))
    else if c.isDigit then
      badEscape ['\\', c]
    else
      return .code (← selfEscape c)

def codeNode (flags : List Flag) (n : Nat) : Node :=
  .char ⟨[.code n], false, dialectOf flags⟩

def isClosed (index : Nat) : ReadM Bool := do
  return (((← get).groups[index - 1]?).join).isSome

def checkBehind (index : Nat) : ReadM Unit := do
  match (← get).behindStart? with
  | none => pure ()
  -- Inside a look-behind only groups that closed before it can be referred to.
  | some start =>
    if !(← isClosed index) then
      fail .openGroup 0
    if start < index then
      fail .groupInSameLookBehind 0

/-- A reference to a group by number, or a character by its three octal digits. -/
def digitEscape (flags : List Flag) (c : Char) : ReadM Node := do
  let second ← takeWhile Char.isDigit 1
  let third ←
    if isOctal c && second.any isOctal && second != [] then takeWhile isOctal 1 else pure []
  let escape := '\\' :: c :: second ++ third
  if third != [] then
    return codeNode flags (← octalCode escape)
  else
    let index := Number.ofDigits (c :: second)
    if (← get).groups.length < index then
      fail (.invalidGroup index) (escape.length - 1)
    else if ← isClosed index then
      checkBehind index
      return .again index (dialectOf flags)
    else
      fail .openGroup escape.length

def nodeEscape (flags : List Flag) (c : Char) : ReadM Node := do
  match anchorEscape? (flags.contains .ascii) c, categoryEscape? c, controlEscape? c, codeEscape? c with
  | some a, _, _, _ => return .anchor a
  | none, some item, _, _ => return .char ⟨[item], false, dialectOf flags⟩
  | none, none, some n, _ => return codeNode flags n
  | none, none, none, some read => return codeNode flags (← read)
  | none, none, none, none =>
    if c == '0' then
      return codeNode flags (ofBase 8 ('0' :: (← takeWhile isOctal 2)))
    else if c.isDigit then
      digitEscape flags c
    else
      return codeNode flags (← selfEscape c)

def setItem : Token → ReadM SetItem
  | .plain c => return .code c.toNat
  | .escaped c => setEscape c
  | .dangling => fail .danglingEscape 0

def setItems (start : Nat) (fuel : Nat) : ReadM (List SetItem) :=
  go fuel []
where
  unterminated {α : Type} : ReadM α := do
    fail .unterminatedSet ((← get).position - start)
  go : Nat → List SetItem → ReadM (List SetItem)
    | 0, items => return items
    | fuel + 1, items => do
      match ← take with
      | none => unterminated
      | some first =>
        if first == .plain ']' && items != [] then
          return items
        else
          let item ← setItem first
          if ← accept '-' then
            match ← take with
            | none => unterminated
            | some last =>
              if last == .plain ']' then
                return items ++ [item, .code '-'.toNat]
              else
                let other ← setItem last
                match item, other with
                | .code low, .code high =>
                  if high < low then
                    badRange first last
                  else
                    go fuel (items ++ [.range low high])
                | _, _ => badRange first last
          else
            go fuel (items ++ [item])
  badRange {α : Type} (first last : Token) : ReadM α :=
    fail (.badRange (String.ofList first.text) (String.ofList last.text))
      (first.text.length + 1 + last.text.length)

def readSet (flags : List Flag) : ReadM Node := do
  let start := (← get).position - 1
  let negated ← accept '^'
  let items ← setItems start ((← get).tokens.length + 1)
  return .char ⟨items, negated, dialectOf flags⟩

structure Bounds where
  least : Nat
  most? : Option Nat

def repetitionBound (ds : List Char) : ReadM Nat := do
  match Number.Integer.read (String.ofList ds) with
  | .error e => throw (.numberTooLong e)
  | .ok n => if repetitionLimit ≤ n.toNat then throw .repetitionTooLarge else return n.toNat

/-- The bounds between braces; `none` where the brace stands for itself and nothing is taken. -/
def braceBounds? : ReadM (Option Bounds) := do
  let before ← get
  if before.tokens.head? == some (.plain '\x7d') then
    return none
  else
    let count := before.tokens.length
    let low ← takeWhile Char.isDigit count
    let high ← if ← accept ',' then takeWhile Char.isDigit count else pure low
    if ← accept '\x7d' then
      let least ← if low.isEmpty then pure 0 else repetitionBound low
      if high.isEmpty then
        return some ⟨least, none⟩
      else
        let most ← repetitionBound high
        if most < least then
          fail .repeatBoundsSwapped ((← get).position - before.position)
        else
          return some ⟨least, some most⟩
    else
      set before
      return none

def bounds? (c : Char) : ReadM (Option Bounds) :=
  if c == '?' then return some ⟨0, some 1⟩
  else if c == '*' then return some ⟨0, none⟩
  else if c == '+' then return some ⟨1, none⟩
  else braceBounds?

def readGreed : ReadM Greed := do
  if ← accept '?' then return .lazy
  else if ← accept '+' then return .possessive
  else return .greedy

/-- Puts a repetition on the last of `items`, which are in reverse order. The mark stood at `start`. -/
def repeatLast (start : Nat) (b : Bounds) (items : List Node) : ReadM (List Node) := do
  let offset := (← get).position - start
  match items with
  | [] | .anchor _ :: _ => fail .nothingToRepeat offset
  | .repeated .. :: _ => fail .multipleRepeat offset
  | item :: items => return .repeated (← readGreed) b.least b.most? item :: items

inductive FlagChange
  | whole
  | inside (on off : List Flag)

def isLetter (t : Token) : Bool :=
  match t with
  | .plain c => isIdentifierStart c && c != '_'
  | _ => false

/-- Takes the next letter among flags; `missing` is what is wrong if there is none. -/
def takeFlag (missing : Cause) (stops : List Char) : ReadM (Char ⊕ Flag) := do
  match ← take with
  | none => fail missing 0
  | some t =>
    match t with
    | .plain c =>
      if stops.contains c then
        return .inl c
      else
        match Flag.ofChar? c with
        | some f => return .inr f
        | none => fail (if isLetter t then .unknownFlag else missing) 1
    | _ => fail missing t.text.length

def flagsOff (fuel : Nat) (f : Flag) (off : List Flag) : ReadM (List Flag) := do
  if f.isType then
    fail .typeFlagOff 0
  else
    match fuel with
    | 0 => return off
    | fuel + 1 =>
      match ← takeFlag .missingColon [':'] with
      | .inl _ => return off ++ [f]
      | .inr g => flagsOff fuel g (off ++ [f])

/-- The flags to turn on from `f` on, and the character that ends them. -/
def flagsOn (fuel : Nat) (f : Flag) (on : List Flag) : ReadM (List Flag × Char) := do
  if f == .locale then
    fail .localeFlag 0
  else if f.isType && on.any fun g => g.isType && g != f then
    fail .incompatibleFlags 0
  else
    match fuel with
    | 0 => return (on, ':')
    | fuel + 1 =>
      match ← takeFlag .missingFlagEnd [')', '-', ':'] with
      | .inl c => return (on ++ [f], c)
      | .inr g => flagsOn fuel g (on ++ [f])

def readFlags (c : Char) : ReadM FlagChange := do
  let fuel := (← get).tokens.length + 1
  let (on, stop) ← match Flag.ofChar? c with
    | some f => flagsOn fuel f []
    | none => pure ([], '-')
  if stop == ')' then
    modify fun r => { r with flags := r.flags ++ on }
    return .whole
  else if on.contains .template then
    fail .globalFlagOn 1
  else
    let off ←
      if stop == '-' then
        match ← takeFlag .missingFlag [] with
        | .inl _ => pure []
        | .inr f => flagsOff fuel f []
      else
        pure []
    if off.contains .template then
      fail .globalFlagOff 1
    else if on.any off.contains then
      fail .flagOnAndOff 1
    else
      return .inside on off

def checkGroupName (name : List Char) : ReadM Unit := do
  if !isIdentifier name then
    fail (.badGroupName (String.ofList name)) (name.length + 1)

def groupNamed (name : List Char) : ReadM Nat := do
  match (← get).names.lookup (String.ofList name) with
  | some index => return index
  | none => fail (.unknownGroupName (String.ofList name)) (name.length + 1)

def namedAgain (flags : List Flag) : ReadM Node := do
  let name ← takeName ')' "group name" ((← get).tokens.length + 1)
  checkGroupName name
  let index ← groupNamed name
  if ← isClosed index then
    checkBehind index
    return .again index (dialectOf flags)
  else
    fail .openGroup (name.length + 1)

def conditionGroup : ReadM Nat := do
  let name ← takeName ')' "group name" ((← get).tokens.length + 1)
  let offset := name.length + 1
  let index ←
    if isIdentifier name then
      groupNamed name
    else
      match Number.Integer.read (String.ofList name) with
      | .error _ => fail (.badGroupName (String.ofList name)) offset
      | .ok n =>
        if n < 0 then
          fail (.badGroupName (String.ofList name)) offset
        else if n == 0 then
          fail .groupZero offset
        else if groupLimit ≤ n.toNat then
          fail (.invalidGroup n.toNat) offset
        else
          let r ← get
          if !r.conditions.any (·.1 == n.toNat) then
            set { r with conditions := r.conditions ++ [(n.toNat, r.position - offset)] }
          pure n.toNat
  checkBehind index
  return index

def openGroup (name? : Option (List Char)) : ReadM Nat := do
  let r ← get
  let index := r.groups.length + 1
  match name? with
  | none =>
    set { r with groups := r.groups ++ [none] }
    return index
  | some name =>
    match r.names.lookup (String.ofList name) with
    | some earlier => fail (.redefinedGroupName (String.ofList name) index earlier) (name.length + 1)
    | none =>
      set { r with groups := r.groups ++ [none], names := r.names ++ [(String.ofList name, index)] }
      return index

def closeGroup (index : Nat) (body : Node) : ReadM Unit :=
  modify fun r => { r with groups := r.groups.set (index - 1) (some (body.width r.groups)) }

def endGroup (start : Nat) : ReadM Unit := do
  if !(← accept ')') then
    fail .unterminatedGroup ((← get).position - start)

def skipComment (start : Nat) : Nat → ReadM Unit
  | 0 => return ()
  | fuel + 1 => do
    match ← peek with
    | none => fail .unterminatedComment ((← get).position - start)
    | some t =>
      advance
      if t != .plain ')' then
        skipComment start fuel

def skipLine : Nat → ReadM Unit
  | 0 => return ()
  | fuel + 1 => do
    match ← take with
    | none => return ()
    | some t => if t != .plain '\n' then skipLine fuel

inductive Opening
  | done (node : Node)
  | nothing
  | capture (name? : Option (List Char))
  | plainGroup (flags : List Flag)
  | atomicGroup
  | lookAround (behind negated : Bool)
  | condition (index : Nat)
  | wholeFlags

def namedOpening (flags : List Flag) : ReadM Opening := do
  if ← accept '<' then
    let name ← takeName '>' "group name" ((← get).tokens.length + 1)
    checkGroupName name
    return .capture (some name)
  else if ← accept '=' then
    return .done (← namedAgain flags)
  else
    match ← take with
    | none => fail .unexpectedEnd 0
    | some t => fail (.unknownExtension (String.ofList ('P' :: t.text))) (t.text.length + 2)

def behindOpening : ReadM Opening := do
  match ← take with
  | none => fail .unexpectedEnd 0
  | some (.plain '=') => return .lookAround true false
  | some (.plain '!') => return .lookAround true true
  | some t => fail (.unknownExtension (String.ofList ('<' :: t.text))) (t.text.length + 2)

def opening (flags : List Flag) (start : Nat) : ReadM Opening := do
  if !(← accept '?') then
    return .capture none
  else
    match ← take with
    | none => fail .unexpectedEnd 0
    | some (.plain 'P') => namedOpening flags
    | some (.plain ':') => return .plainGroup flags
    | some (.plain '#') =>
      skipComment start ((← get).tokens.length + 1)
      return .nothing
    | some (.plain '=') => return .lookAround false false
    | some (.plain '!') => return .lookAround false true
    | some (.plain '<') => behindOpening
    | some (.plain '(') => return .condition (← conditionGroup)
    | some (.plain '>') => return .atomicGroup
    | some t =>
      match t with
      | .plain c =>
        if (Flag.ofChar? c).isSome || c == '-' then
          match ← readFlags c with
          | .whole => return .wholeFlags
          | .inside on off => return .plainGroup (combineFlags flags on off)
        else
          fail (.unknownExtension (String.ofList [c])) 2
      | _ => fail (.unknownExtension (String.ofList t.text)) (t.text.length + 1)

/-- Items in reverse order as one node. -/
def seqOf (items : List Node) : Node :=
  match items with
  | [] => .empty
  | item :: items => items.foldl (fun acc item => .seq item acc) item

/-- What a single character other than a bracket or a repetition mark stands for. -/
def plainNode (flags : List Flag) (c : Char) : Node :=
  if c == '.' then
    .char ⟨if flags.contains .dotAll then [] else [.code 10], true, ⟨false, false⟩⟩
  else if c == '^' then
    .anchor (if flags.contains .multiline then .lineStart else .start)
  else if c == '$' then
    .anchor (if flags.contains .multiline then .lineEnd else .beforeLastBreak)
  else
    codeNode flags c.toNat

def isRepeatMark (c : Char) : Bool :=
  c == '*' || c == '+' || c == '?' || c == '\x7b'

mutual

/-- Alternatives; `top` tells the whole pattern from the inside of a group. -/
def alternatives (top : Bool) (flags : List Flag) : (fuel : Nat) → (first : Bool) → ReadM Node
  | 0, _ => return .empty
  | fuel + 1, first => do
    let node ← sequence (top && first) flags fuel []
    if ← accept '|' then
      let r ← get
      let flags := if top then r.flags else flags
      return .alt node (← alternatives top flags fuel false)
    else
      return node

/-- One alternative after the `items`, which are in reverse order. Flags for the whole pattern may stand
where `atStart` holds. -/
def sequence (atStart : Bool) (flags : List Flag) : (fuel : Nat) → (items : List Node) → ReadM Node
  | 0, items => return seqOf items
  | fuel + 1, items => do
    let start := (← get).position
    match ← peek with
    | none => return seqOf items
    | some .dangling => return seqOf items
    | some (.escaped c) =>
      advance
      sequence atStart flags fuel ((← nodeEscape flags c) :: items)
    | some (.plain c) =>
      if c == '|' || c == ')' then
        return seqOf items
      else
        advance
        if flags.contains .verbose && (c == ' ' || (0x09 ≤ c.toNat && c.toNat ≤ 0x0D)) then
          sequence atStart flags fuel items
        else if flags.contains .verbose && c == '#' then
          skipLine ((← get).tokens.length + 1)
          sequence atStart flags fuel items
        else if c == '[' then
          sequence atStart flags fuel ((← readSet flags) :: items)
        else if isRepeatMark c then
          match ← bounds? c with
          | none => sequence atStart flags fuel (codeNode flags c.toNat :: items)
          | some b => sequence atStart flags fuel (← repeatLast start b items)
        else if c == '(' then
          match ← opening flags start with
          | .wholeFlags =>
            let r ← get
            if atStart && items.isEmpty then
              sequence atStart r.flags fuel items
            else
              fail .globalFlagsNotAtStart (r.position - start)
          | .nothing => sequence atStart flags fuel items
          | .done node => sequence atStart flags fuel (node :: items)
          | o => sequence atStart flags fuel ((← inGroup flags start fuel o) :: items)
        else
          sequence atStart flags fuel (plainNode flags c :: items)

def inGroup (flags : List Flag) (start : Nat) : (fuel : Nat) → (o : Opening) → ReadM Node
  | 0, _ => return .empty
  | fuel + 1, o => do
    match o with
    | .capture name? =>
      let index ← openGroup name?
      let body ← alternatives false flags fuel true
      endGroup start
      closeGroup index body
      return .group (some index) body
    | .plainGroup flags =>
      let body ← alternatives false flags fuel true
      endGroup start
      return .group none body
    | .atomicGroup =>
      let body ← alternatives false flags fuel true
      endGroup start
      return .atomic body
    | .lookAround false negated =>
      let body ← alternatives false flags fuel true
      endGroup start
      return .ahead negated body
    | .lookAround true negated =>
      let outer := (← get).behindStart?
      if outer.isNone then
        modify fun r => { r with behindStart? := some r.groups.length }
      let body ← alternatives false flags fuel true
      if outer.isNone then
        modify fun r => { r with behindStart? := none }
      endGroup start
      let widths := body.width (← get).groups
      return .behind negated widths.1 widths.2 body
    | .condition index =>
      let yes ← sequence false flags fuel []
      let no ←
        if ← accept '|' then
          let no ← sequence false flags fuel []
          if (← peek) == some (.plain '|') then
            fail .moreThanTwoBranches 0
          pure no
        else
          pure .empty
      endGroup start
      return .ifGroup index yes no
    | .done node => return node
    | .nothing | .wholeFlags => return .empty

end

structure Regex where
  root : Node
  groupCount : Nat
  names : List (String × Nat)
  deriving DecidableEq

/-- Reads the whole text, and checks what can only be told at its end. -/
def readWhole : ReadM Regex := do
  refuseDangling
  let root ← alternatives true [] (4 * (← get).tokens.length + 4) true
  let r ← get
  if r.flags.contains .ascii && r.flags.contains .unicode then
    throw .flagConflict
  if !r.tokens.isEmpty then
    fail .unbalancedParenthesis 0
  match r.conditions.find? (r.groups.length < ·.1) with
  | some (index, position) => throw (.malformed (.invalidGroup index) (some ⟨r.text, position⟩))
  | none => pure ()
  match root.flaw? (r.flags.contains .template) with
  | some cause => throw (.malformed cause none)
  | none => pure ()
  return ⟨root, r.groups.length, r.names⟩

def Regex.read (text : List Char) : Except Error Regex :=
  readWhole.run' (Reading.ofText text)

end XmlBinding.Pattern
