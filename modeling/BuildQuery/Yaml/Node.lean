import BuildQuery.Parsed
import BuildQuery.Yaml.Token

/-!
# YAML documents

A document is a tree of scalars, sequences and mappings. A node that is left out is the empty plain
scalar, and so is a document without content.
-/

namespace BuildQuery.Yaml

/-- A node of a document. -/
inductive Node where
  | scalar (style : Style) (text : String)
  | sequence (items : List Node)
  | mapping (entries : List (Node × Node))

/-- What a node belongs to: brackets, an element or a document, or an entry of a mapping that is
given by columns. -/
inductive Role where
  | inFlow
  | inBlock
  | inEntry
  deriving DecidableEq, Repr

namespace Node

/-- The node that is left out. -/
def empty : Node := scalar .plain ""

/-- Tokens that show that an element of a sequence is left out. -/
def endsItem (t : Token) : Bool := t == .entry || t == .blockEnd

/-- Tokens that show that a part of an entry is left out. -/
def endsPart (t : Token) : Bool := t == .key || t == .value || t == .blockEnd

/-- Tokens that show that an element is left out of a sequence without columns of its own. -/
def endsBareItem (t : Token) : Bool := endsItem t || endsPart t

/-- Tokens that show that a value is left out before the bracket `closing`. -/
def endsFlowValue (closing t : Token) : Bool := t == .comma || t == closing

/-- Tokens that show that a key is left out before the bracket `closing`. -/
def endsFlowKey (closing t : Token) : Bool := t == .value || endsFlowValue closing t

/-- One token, which has to be the given one. -/
def token? (t : Token) (ts : List Token) : Option (Parsed Unit ts) :=
  match ts with
  | [] => none
  | u :: rest => if u = t then some ⟨(), rest, Nat.lt_succ_self _⟩ else none

mutual

/-- A node at the front of the tokens. -/
def read? (role : Role) (ts : List Token) : Option (Parsed Node ts) :=
  match ts with
  | .scalar style text :: rest => some ⟨.scalar style text, rest, Nat.lt_succ_self _⟩
  | .openBracket :: rest => return ((← flowItems? rest).map Node.sequence).widen (Nat.le_succ _)
  | .openBrace :: rest => return ((← flowEntries? rest).map Node.mapping).widen (Nat.le_succ _)
  | .sequenceStart :: rest =>
    if role = .inFlow then none
    else return ((← blockItems? rest).map Node.sequence).widen (Nat.le_succ _)
  | .mappingStart :: rest =>
    if role = .inFlow then none
    else return ((← blockEntries? rest).map Node.mapping).widen (Nat.le_succ _)
  | .entry :: rest =>
    if role = .inEntry then return (← bareItems? (.entry :: rest)).map Node.sequence else none
  | _ => none
termination_by (ts.length, 2)

/-- The node after the first token, which is left out if the next token shows so. -/
def part? (role : Role) (isEnd : Token → Bool) (ts : List Token) : Option (Parsed Node ts) :=
  match ts with
  | [] => none
  | _ :: rest =>
    if rest.head?.any isEnd then some ⟨empty, rest, Nat.lt_succ_self _⟩
    else return (← read? role rest).widen (Nat.le_succ _)
termination_by (ts.length, 0)

/-- The value of a key that was just read, which can be left out together with its colon. -/
def entryOf? {ts : List Token} (role : Role) (isEnd : Token → Bool) (key : Parsed Node ts) :
    Option (Parsed (Node × Node) ts) :=
  if key.rest.head? = some .value then do
    have := key.shorter
    let value ← part? role isEnd key.rest
    return (value.map fun v => (key.value, v)).widen (Nat.le_of_lt this)
  else some (key.map fun k => (k, empty))
termination_by (ts.length, 0)

/-- The elements of a sequence with columns of its own, and its end. -/
def blockItems? (ts : List Token) : Option (Parsed (List Node) ts) :=
  match ts with
  | .blockEnd :: rest => some ⟨[], rest, Nat.lt_succ_self _⟩
  | .entry :: rest => do
    let item ← part? .inBlock endsItem (.entry :: rest)
    have := item.shorter
    let more ← blockItems? item.rest
    return (more.map (item.value :: ·)).widen (Nat.le_of_lt this)
  | _ => none
termination_by (ts.length, 1)

/-- The elements of a sequence in the columns of the mapping around it. -/
def bareItems? (ts : List Token) : Option (Parsed (List Node) ts) := do
  let item ← part? .inBlock endsBareItem ts
  have := item.shorter
  if item.rest.head? = some .entry then
    let more ← bareItems? item.rest
    return (more.map (item.value :: ·)).widen (Nat.le_of_lt this)
  else return item.map fun i => [i]
termination_by (ts.length, 1)

/-- The entries of a mapping that is given by columns, and its end. -/
def blockEntries? (ts : List Token) : Option (Parsed (List (Node × Node)) ts) :=
  match ts with
  | .blockEnd :: rest => some ⟨[], rest, Nat.lt_succ_self _⟩
  | .key :: rest => do
    let key ← part? .inEntry endsPart (.key :: rest)
    let entry ← entryOf? .inEntry endsPart key
    have := entry.shorter
    let more ← blockEntries? entry.rest
    return (more.map (entry.value :: ·)).widen (Nat.le_of_lt this)
  | _ => none
termination_by (ts.length, 1)

/-- An element between brackets, which can be a single entry. A key that is left out there takes the
next token with it. -/
def flowItem? (ts : List Token) : Option (Parsed Node ts) :=
  match token? .key ts with
  | none => read? .inFlow ts
  | some mark => do
    let key ←
      match h : mark.rest with
      | [] => none
      | t :: rest =>
        if endsFlowKey .closeBracket t then
          some ⟨empty, rest, by
            have := mark.shorter
            rw [h, List.length_cons] at this
            omega⟩
        else part? .inFlow (fun _ => false) ts
    let entry ← entryOf? .inFlow (endsFlowValue .closeBracket) key
    return entry.map fun e => mapping [e]
termination_by (ts.length, 3)

/-- The elements of a sequence between brackets, and the closing bracket. -/
def flowItems? (ts : List Token) : Option (Parsed (List Node) ts) :=
  match token? .closeBracket ts with
  | some close => some (close.map fun _ => [])
  | none => do
    let item ← flowItem? ts
    have := item.shorter
    match token? .closeBracket item.rest with
    | some close => return (close.map fun _ => [item.value]).widen (Nat.le_of_lt this)
    | none =>
      let comma ← token? .comma item.rest
      have shorter := Nat.lt_trans comma.shorter this
      let more ← flowItems? comma.rest
      return (more.map (item.value :: ·)).widen (Nat.le_of_lt shorter)
termination_by (ts.length, 4)

/-- An entry between braces. Without a colon, it is a key alone. -/
def flowEntry? (ts : List Token) : Option (Parsed (Node × Node) ts) :=
  match token? .key ts with
  | none => do return (← read? .inFlow ts).map fun k => (k, empty)
  | some _ => do
    let key ← part? .inFlow (endsFlowKey .closeBrace) ts
    entryOf? .inFlow (endsFlowValue .closeBrace) key
termination_by (ts.length, 3)

/-- The entries of a mapping between braces, and the closing brace. -/
def flowEntries? (ts : List Token) : Option (Parsed (List (Node × Node)) ts) :=
  match token? .closeBrace ts with
  | some close => some (close.map fun _ => [])
  | none => do
    let entry ← flowEntry? ts
    have := entry.shorter
    match token? .closeBrace entry.rest with
    | some close => return (close.map fun _ => [entry.value]).widen (Nat.le_of_lt this)
    | none =>
      let comma ← token? .comma entry.rest
      have shorter := Nat.lt_trans comma.shorter this
      let more ← flowEntries? comma.rest
      return (more.map (entry.value :: ·)).widen (Nat.le_of_lt shorter)
termination_by (ts.length, 4)

end

/-- The content of a document, and the tokens after it. -/
def content? (ts : List Token) : Option (Node × List Token) :=
  match ts with
  | [] => some (empty, [])
  | .documentStart :: rest =>
    match rest with
    | [] | .documentStart :: _ | .documentEnd :: _ => some (empty, rest)
    | _ => do
      let p ← read? .inBlock rest
      return (p.value, p.rest)
  | _ => do
    let p ← read? .inBlock ts
    return (p.value, p.rest)

/-- The node of the only document of a text. -/
def parse? (s : String) : Option Node := do
  let (node, rest) ← content? (← tokens? s)
  if rest.all (· == .documentEnd) then return node else none

end Node

end BuildQuery.Yaml
