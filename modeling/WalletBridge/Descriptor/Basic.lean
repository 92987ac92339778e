/-
This file holds descriptors: what a wallet's addresses stand for. A descriptor is read from text,
and every part of it is checked for the place where it stands: how keys may be written there, how
long a script may be, and that the conditions have a type. A wallet is created only for a
descriptor that also needs no secret to derive addresses and is sane.
-/

import WalletBridge.Descriptor.Expression
import WalletBridge.Descriptor.Key
import WalletBridge.Descriptor.Typing

namespace WalletBridge

/-! ### Places -/

/-- Where a script stands. -/
inductive ScriptPlace where
  /-- In the output itself. -/
  | bare
  /-- Behind a digest. -/
  | legacy
  /-- Behind a witness program. -/
  | witness
  /-- In a script tree. -/
  | tree
  deriving Repr, DecidableEq

namespace ScriptPlace

/-- Whether a key may be written so in a place. -/
def admits (place : ScriptPlace) (form : KeyForm) : Bool :=
  match place with
  | .bare | .legacy => form != .abscissa
  | .witness => form == .compressed
  | .tree => form != .uncompressed

/-- How many octets a script may have. -/
def sizeLimit : ScriptPlace → Nat
  | .bare => 10000
  | .legacy => 520
  | .witness => 3600
  | .tree => 4000000

/-- How many octets a key takes in a script. -/
def keyLength (place : ScriptPlace) (form : KeyForm) : Nat :=
  if place = .tree then 32 else if form = .uncompressed then 65 else 33

end ScriptPlace

namespace Miniscript

/-- The size of a script in a place. -/
def size (place : ScriptPlace) (condition : Miniscript DescriptorKey) : Nat :=
  (Script.encode (condition.script fun key =>
    List.replicate (place.keyLength key.form) 0)).length

/-- How many operations of a script count against the limit. -/
def operations (condition : Miniscript DescriptorKey) : Nat :=
  (condition.script fun _ => []).countP fun element =>
    match element with
    | .op opcode => 0x60 < opcode
    | .push _ => false

mutual

/-- The keys whose form a place restricts, and whether the ways of counting signatures fit the
place. -/
def fitsPlace (place : ScriptPlace) : Miniscript DescriptorKey → Bool
  | .always | .never | .after _ | .older _ | .preimage .. | .keyDigest _ => true
  | .key one => place.admits one.form
  | .wrap _ inner => inner.fitsPlace place
  | .andV left right | .andB left right | .orB left right | .orC left right | .orD left right
  | .orI left right => left.fitsPlace place && right.fitsPlace place
  | .andOr condition both otherwise =>
    condition.fitsPlace place && both.fitsPlace place && otherwise.fitsPlace place
  | .threshold _ items => fitPlace place items
  | .multi _ keys => place != .tree && keys.all fun key => place.admits key.form
  | .multiAdd _ keys => place == .tree && keys.all fun key => place.admits key.form

/-- The same for some conditions. -/
def fitPlace (place : ScriptPlace) : List (Miniscript DescriptorKey) → Bool
  | [] => true
  | item :: rest => item.fitsPlace place && fitPlace place rest

end

/-- Whether a condition may stand in a place: it leaves a truth value, its keys are written as they
may be, and its script is not too long. -/
def isValid (place : ScriptPlace) (condition : Miniscript DescriptorKey) : Bool :=
  match condition.type? with
  | some type =>
    type.base == .bool && condition.fitsPlace place && condition.size place ≤ place.sizeLimit
  | none => false

/-- Whether a satisfaction stays within the limit of operations. Script trees have none. -/
def isAffordable (place : ScriptPlace) (condition : Miniscript DescriptorKey)
    (type : MiniscriptType) : Bool :=
  match type.satisfyCost with
  | some cost => place == .tree || condition.operations + cost ≤ 201
  | none => false

/-- Whether a condition is sane: every satisfaction has a signature, nobody else can change it, no
key occurs twice, and no satisfaction mixes kinds of time. -/
def isSane (place : ScriptPlace) (condition : Miniscript DescriptorKey) : Bool :=
  match condition.type? with
  | some type =>
    type.safe && type.nonMalleable && condition.isAffordable place type &&
      decide condition.keys.Nodup && !type.times.mixed
  | none => false

/-! ### Reading -/

/-- How many keys a multiple signature may have. -/
def multiLimit : Nat := 20

/-- The key that an expression is. -/
def keyOf? (expression : Expression) : Option DescriptorKey :=
  expression.terminal?.bind DescriptorKey.parse?

/-- A count, and as many arguments behind it as it needs at least. -/
def countOf? (limit : Option Nat) : List Expression → Option (Nat × List Expression)
  | [] => none
  | first :: rest => do
    let count ← first.terminal?.bind Expression.number?
    if 0 < count ∧ count ≤ rest.length ∧ limit.all (rest.length ≤ ·) then some (count, rest)
    else none

/-- A digest in hexadecimal digits. -/
def digestOf? (kind : DigestKind) (expression : Expression) : Option Bytes := do
  let octets ← expression.terminal?.bind Hex.decodeChars?
  if octets.length = kind.length then some octets else none

/-- The condition with a name, its arguments, and the conditions that these are. -/
def ofName? (name : String) (arguments : List Expression)
    (conditions : List (Option (Miniscript DescriptorKey))) :
    Option (Miniscript DescriptorKey) :=
  match name, arguments, conditions with
  | "0", [], _ => some .never
  | "1", [], _ => some .always
  | "pk", [one], _ => (keyOf? one).map fun key => .wrap .check (.key key)
  | "pkh", [one], _ => (keyOf? one).map fun key => .wrap .check (.keyDigest key)
  | "pk_k", [one], _ => (keyOf? one).map .key
  | "pk_h", [one], _ => (keyOf? one).map .keyDigest
  | "after", [one], _ => do
    let time ← one.terminal?.bind Expression.number?
    if 0 < time ∧ time < values31 then some (.after time) else none
  | "older", [one], _ => do
    let age ← one.terminal?.bind Expression.number?
    if 0 < age ∧ age < values31 then some (.older age) else none
  | "sha256", [one], _ => (digestOf? .sha256 one).map (.preimage .sha256)
  | "hash256", [one], _ => (digestOf? .hash256 one).map (.preimage .hash256)
  | "ripemd160", [one], _ => (digestOf? .ripemd160 one).map (.preimage .ripemd160)
  | "hash160", [one], _ => (digestOf? .hash160 one).map (.preimage .hash160)
  | "and_v", _, [some left, some right] => some (.andV left right)
  | "and_b", _, [some left, some right] => some (.andB left right)
  | "and_n", _, [some left, some right] => some (.andOr left right .never)
  | "andor", _, [some condition, some both, some otherwise] =>
    some (.andOr condition both otherwise)
  | "or_b", _, [some left, some right] => some (.orB left right)
  | "or_c", _, [some left, some right] => some (.orC left right)
  | "or_d", _, [some left, some right] => some (.orD left right)
  | "or_i", _, [some left, some right] => some (.orI left right)
  | "thresh", _, _ => do
    let (count, _) ← countOf? none arguments
    let items ← (conditions.drop 1).mapM id
    pure (.threshold count items)
  | "multi", _, _ => do
    let (count, rest) ← countOf? (some multiLimit) arguments
    let keys ← rest.mapM keyOf?
    pure (.multi count keys)
  | "multi_a", _, _ => do
    let (count, rest) ← countOf? (some 999) arguments
    let keys ← rest.mapM keyOf?
    pure (.multiAdd count keys)
  | _, _, _ => none

/-- Puts a wrapper, named by a letter, around a condition. -/
def wrapped? (letter : Char) (inner : Miniscript DescriptorKey) :
    Option (Miniscript DescriptorKey) :=
  match letter with
  | 'a' => some (.wrap .alt inner)
  | 's' => some (.wrap .swap inner)
  | 'c' => some (.wrap .check inner)
  | 'd' => some (.wrap .dupIf inner)
  | 'v' => some (.wrap .verify inner)
  | 'j' => some (.wrap .nonZero inner)
  | 'n' => some (.wrap .isNotZero inner)
  | 't' => some (.andV inner .always)
  | 'u' => some (.orI inner .never)
  | 'l' => some (.orI .never inner)
  | _ => none

mutual

/-- The condition that an expression is. -/
def ofExpression? : Expression → Option (Miniscript DescriptorKey)
  | .node name arguments =>
    let conditions := ofExpressions arguments
    match DescriptorKey.split ':' name with
    | [own] => ofName? (String.ofList own) arguments conditions
    | [wrappers, own] =>
      if wrappers.isEmpty then none
      else
        (ofName? (String.ofList own) arguments conditions).bind fun inner =>
          wrappers.foldr (fun letter condition => condition.bind (wrapped? letter)) (some inner)
    | _ => none

/-- The conditions that some expressions are. -/
def ofExpressions : List Expression → List (Option (Miniscript DescriptorKey))
  | [] => []
  | expression :: rest => ofExpression? expression :: ofExpressions rest

end

end Miniscript

/-! ### Descriptors -/

/-- What stands behind a digest or a witness program. -/
inductive InnerScript where
  | condition (condition : Miniscript DescriptorKey)
  /-- A multiple signature whose keys are sorted for every address. -/
  | sortedMulti (count : Nat) (keys : List DescriptorKey)

/-- A tree of scripts. -/
inductive ScriptTree where
  | leaf (condition : Miniscript DescriptorKey)
  | branch (left right : ScriptTree)

/-- What the addresses of a wallet stand for. -/
inductive Descriptor where
  | bare (condition : Miniscript DescriptorKey)
  | keyHash (key : DescriptorKey)
  | witnessKeyHash (key : DescriptorKey)
  | nestedKeyHash (key : DescriptorKey)
  | scriptHash (inner : InnerScript)
  | witnessScriptHash (inner : InnerScript)
  | nestedScriptHash (inner : InnerScript)
  | taproot (key : DescriptorKey) (tree : Option ScriptTree)

namespace InnerScript

/-- The condition without regard to the order of keys. -/
def toCondition : InnerScript → Miniscript DescriptorKey
  | .condition own => own
  | .sortedMulti count keys => .multi count keys

/-- The script that an expression is in a place. -/
def ofExpression? (place : ScriptPlace) (expression : Expression) : Option InnerScript :=
  match expression with
  | .node name arguments =>
    if name = "sortedmulti".toList then do
      let (count, rest) ← Miniscript.countOf? (some Miniscript.multiLimit) arguments
      let keys ← rest.mapM Miniscript.keyOf?
      let inner := InnerScript.sortedMulti count keys
      if inner.toCondition.isValid place then some inner else none
    else do
      let condition ← Miniscript.ofExpression? expression
      if condition.isValid place then some (.condition condition) else none

end InnerScript

namespace ScriptTree

/-- The conditions of a tree, from left to right. -/
def leaves : ScriptTree → List (Miniscript DescriptorKey)
  | .leaf condition => [condition]
  | .branch left right => left.leaves ++ right.leaves

/-- How many branches the deepest leaf is below. -/
def height : ScriptTree → Nat
  | .leaf _ => 0
  | .branch left right => max left.height right.height + 1

mutual

/-- The tree that an expression in curly brackets is; its leaves are sane conditions. -/
def ofExpression? : Expression → Option ScriptTree
  | .node name arguments =>
    match ofExpressions arguments with
    | [] => do
      if name.isEmpty then none
      let expression ← Expression.parse? name
      let condition ← Miniscript.ofExpression? expression
      if condition.isValid .tree && condition.isSane .tree then some (.leaf condition) else none
    | [some left, some right] => if name.isEmpty then some (.branch left right) else none
    | _ => none

/-- The trees that some expressions are. -/
def ofExpressions : List Expression → List (Option ScriptTree)
  | [] => []
  | expression :: rest => ofExpression? expression :: ofExpressions rest

end

/-- How high a tree may be. -/
def heightLimit : Nat := 128

end ScriptTree

namespace Descriptor

/-- Whether a condition may stand in an output itself. -/
def isPlain : Miniscript DescriptorKey → Bool
  | .wrap .check (.key _) => true
  | .wrap .check (.keyDigest _) => true
  | .multi _ keys => keys.length ≤ 3
  | _ => false

/-- A key that may be written as it is in a place. -/
def admitted? (place : ScriptPlace) (expression : Expression) : Option DescriptorKey := do
  let key ← Miniscript.keyOf? expression
  if place.admits key.form then some key else none

/-- The descriptor that an expression is. -/
def ofExpression? (expression : Expression) : Option Descriptor :=
  match expression with
  | .node name arguments =>
    match String.ofList name, arguments with
    | "pkh", [one] => (admitted? .bare one).map .keyHash
    | "wpkh", [one] => (admitted? .witness one).map .witnessKeyHash
    | "wsh", [one] => (InnerScript.ofExpression? .witness one).map .witnessScriptHash
    | "sh", [.node inner innerArguments] =>
      match String.ofList inner, innerArguments with
      | "wpkh", [one] => (admitted? .witness one).map .nestedKeyHash
      | "wpkh", _ => none
      | "wsh", [one] => (InnerScript.ofExpression? .witness one).map .nestedScriptHash
      | "wsh", _ => none
      | _, _ =>
        (InnerScript.ofExpression? .legacy (.node inner innerArguments)).map .scriptHash
    | _, _ => do
      let condition ← Miniscript.ofExpression? expression
      if condition.isValid .bare && isPlain condition then some (.bare condition) else none

/-- The descriptor with a script tree that a text is. -/
def taprootOf? (text : List Char) : Option Descriptor :=
  match text, text.getLast? with
  | 't' :: 'r' :: '(' :: rest, some ')' => do
    let content := rest.dropLast
    let front := content.takeWhile (· != ',')
    let keyExpression ← Expression.parse? front
    let key ← admitted? .tree keyExpression
    match content.dropWhile (· != ',') with
    | [] => some (.taproot key none)
    | _ :: behind =>
      let expression ← Expression.parseFrom? .curly 1 behind
      let tree ← ScriptTree.ofExpression? expression
      if tree.height ≤ ScriptTree.heightLimit then some (.taproot key (some tree)) else none
  | _, _ => none

/-- The keys of a descriptor. -/
def keys : Descriptor → List DescriptorKey
  | .bare condition => condition.keys
  | .keyHash key | .witnessKeyHash key | .nestedKeyHash key => [key]
  | .scriptHash inner | .witnessScriptHash inner | .nestedScriptHash inner =>
    inner.toCondition.keys
  | .taproot key tree =>
    key :: match tree with
      | some tree => tree.leaves.flatMap (·.keys)
      | none => []

/-- The descriptor of a text, for a chain: its checksum fits, if it has one, and its keys are of the
chain's kind. -/
def parse? (chain : Chain) (text : String) : Option Descriptor := do
  let content ← Checksum.content? text
  let characters := content.toList
  let descriptor ←
    if ['t', 'r', '('].isPrefixOf characters then taprootOf? characters
    else (Expression.parse? characters).bind ofExpression?
  if descriptor.keys.all (·.fits chain) then some descriptor else none

/-- Whether the conditions of a descriptor are sane. -/
def isSane : Descriptor → Bool
  | .bare condition => condition.isSane .bare
  | .keyHash _ | .witnessKeyHash _ | .nestedKeyHash _ => true
  | .scriptHash inner => inner.toCondition.isSane .legacy
  | .witnessScriptHash inner | .nestedScriptHash inner => inner.toCondition.isSane .witness
  | .taproot _ tree =>
    match tree with
    | some tree => tree.leaves.all (·.isSane .tree)
    | none => true

/-- Whether a wallet can derive addresses from a descriptor without secrets and one by one. -/
def isUsable (descriptor : Descriptor) : Bool :=
  descriptor.keys.all fun key => !key.needsSecret && !key.isMultiple

/-- Whether the index of an address changes anything. -/
def hasWildcard (descriptor : Descriptor) : Bool := descriptor.keys.any (·.hasWildcard)

end Descriptor

end WalletBridge
