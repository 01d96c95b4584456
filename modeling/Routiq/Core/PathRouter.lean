import Routiq.Core.Strings

/-! A router of URL paths, as the crate `matchit` has it: patterns of text,
parameters and catch-alls, inserts that refuse a conflict, and a lookup that
prefers text and comes back to a wildcard when the text leads nowhere. The
radix tree is left out; what is stored is the list of patterns. -/
namespace Routiq.Core.PathRouter
open Strings List Option

variable {Value : Type}

/-! ## Patterns -/

inductive Piece where
  | char (value : Char)
  | param (name : Text)
  | catchAll (name : Text)
deriving DecidableEq

def Piece.isWildcard : Piece → Bool
  | .char _ => false
  | .param _ => true
  | .catchAll _ => true

def opensWildcard (character : Char) : Bool := character == ':' || character == '*'

/-- Read a pattern, with the character before it and, inside of a wildcard, its
kind and its name so far. A wildcard has a name without further wildcards; a
catch-all follows a slash and is the last piece. -/
def scan : Option Char → Option (Char × Text) → Text → Option (List Piece)
  | _, none, [] => some []
  | previous, none, character :: rest =>
    if opensWildcard character then
      if character = '*' && previous ≠ some '/' then none else scan (some character) (some (character,[])) rest
    else (scan (some character) none rest).map (.char character :: ·)
  | _, some (kind,name), [] =>
    if name.isEmpty then none else some [if kind = '*' then .catchAll name else .param name]
  | _, some (kind,name), character :: rest =>
    if character = '/' then
      if name.isEmpty || kind = '*' then none
      else (scan (some '/') none rest).map fun pieces => .param name :: .char '/' :: pieces
    else if opensWildcard character then none
    else scan (some character) (some (kind,name ++ [character])) rest

/-- A catch-all also needs a pattern that starts with a slash. -/
def parse (pattern : Text) : Option (List Piece) := (scan none none pattern).bind fun pieces =>
    if pieces.any (fun piece => piece matches .catchAll _) && pattern.head? ≠ some '/' then none else some pieces

/-- Two patterns conflict if they are the same, or if they first differ in two
wildcards. -/
def conflicts : List Piece → List Piece → Bool
  | [], [] => true
  | first :: firsts, second :: seconds =>
    if first = second then conflicts firsts seconds else first.isWildcard && second.isWildcard
  | _, _ => false

/-! ## Routers -/

abbrev Routes (Value : Type) := List (List Piece × Value)

section
variable (routes : Routes Value)

def insert (pattern : Text) (value : Value) : Option (Routes Value) := (parse pattern).bind fun pieces =>
    if routes.any fun route => conflicts pieces route.1 then none else some (routes ++ [(pieces,value)])

def advance (character : Char) (routes : Routes Value) : Routes Value := routes.filterMap fun
    | (.char expected :: rest,value) => if character = expected then some (rest,value) else none
    | _ => none

def afterParam : Routes Value := routes.filterMap fun
    | (.param _ :: rest,value) => some (rest,value)
    | _ => none

def ended : Option Value := routes.findSome? fun
    | ([],value) => some value
    | _ => none

def caught : Option Value := routes.findSome? fun
    | ([.catchAll _],value) => some value
    | _ => none

/-- The walk down the tree; `inside` while a parameter takes the rest of its
segment. -/
def find (inside : Bool) (routes : Routes Value) : Text → Option Value
  | [] => ended routes
  | character :: rest =>
    if inside then
      if character = '/' then find false (advance '/' routes) rest else find true routes rest
    else
      (find false (advance character routes) rest).or
        ((if character = '/' then find false (advance '/' (afterParam routes)) rest
          else find true (afterParam routes) rest).or (caught routes))

def lookup (path : Text) : Option Value := find false routes path

end

/-! ## Plain patterns -/

def Literal (text : Text) : Prop := ∀ character ∈ text, opensWildcard character = false
def textPieces (text : Text) : List Piece := text.map .char
def catchPieces (name base : Text) : List Piece := textPieces base ++ [.catchAll name]

def Plain (name : Text) (pieces : List Piece) : Prop :=
  (∃ text, pieces = textPieces text) ∨ ∃ base, pieces = catchPieces name base

variable {text : Text}

theorem literal_of_all (hall : (text.all fun character => !opensWildcard character) = true) :
    Literal text := by
  intro character hmem
  simpa using all_eq_true.mp hall character hmem

theorem scan_literal (hliteral : Literal text) (previous : Option Char) :
    scan previous none text = some (textPieces text) := by
  induction text generalizing previous with
  | nil => rfl
  | cons character rest ih =>
    have hcharacter := hliteral character mem_cons_self
    have hrest : Literal rest := fun other hother => hliteral other (mem_cons_of_mem character hother)
    rw [scan,hcharacter,if_neg Bool.false_ne_true,ih hrest]
    rfl

variable {name : Text}

theorem scan_name (hliteral : Literal name) (hslash : '/' ∉ name) (previous : Option Char) (kind : Char)
    (before : Text) (hname : before ++ name ≠ []) : scan previous (some (kind,before)) name =
      some [if kind = '*' then .catchAll (before ++ name) else .param (before ++ name)] := by
  induction name generalizing previous before with
  | nil =>
    rw [append_nil] at hname
    simp [scan,hname]
  | cons character rest ih =>
    have hcharacter := hliteral character mem_cons_self
    have hother : character ≠ '/' := fun heq => hslash (heq ▸ mem_cons_self)
    have hrest : Literal rest := fun other hother => hliteral other (mem_cons_of_mem character hother)
    have hclean : '/' ∉ rest := fun hmem => hslash (mem_cons_of_mem character hmem)
    rw [scan,if_neg hother,hcharacter,if_neg Bool.false_ne_true,ih hrest hclean _ _ (by simp),
      append_assoc,singleton_append]

variable {base : Text}

theorem scan_catchAll (hbase : Literal base) (hname : Literal name) (hslash : '/' ∉ name)
    (hnonempty : name ≠ []) {previous : Option Char} (hlast : base.getLast?.or previous = some '/') :
    scan previous none (base ++ '*' :: name) = some (catchPieces name base) := by
  induction base generalizing previous with
  | nil =>
    rw [getLast?_nil,none_or] at hlast
    rw [nil_append,scan,if_pos (by decide),hlast,if_neg (by decide),
      scan_name hname hslash _ _ _ (by simpa using hnonempty)]
    rfl
  | cons character rest ih =>
    have hcharacter := hbase character mem_cons_self
    have hrest : Literal rest := fun other hother => hbase other (mem_cons_of_mem character hother)
    have hlater : rest.getLast?.or (some character) = some '/' := by
      rw [getLast?_cons,some_or] at hlast
      rw [← hlast]
      cases rest.getLast? <;> rfl
    rw [cons_append,scan,hcharacter,if_neg Bool.false_ne_true,ih hrest hlater]
    rfl

theorem parse_literal (hliteral : Literal text) : parse text = some (textPieces text) := by
  have hany : ((textPieces text).any fun piece => piece matches .catchAll _) = false := by
    simp [textPieces]
  unfold parse
  rw [scan_literal hliteral,bind_some,hany]
  rfl

theorem parse_catchAll (hbase : Literal base) (hname : Literal name) (hslash : '/' ∉ name)
    (hnonempty : name ≠ []) (hlast : base.getLast? = some '/') :
    parse (base ++ '*' :: name) = if base.head? = some '/' then some (catchPieces name base) else none := by
  have hany : ((catchPieces name base).any fun piece => piece matches .catchAll _) = true := by
    simp [catchPieces]
  have hhead : (base ++ '*' :: name).head? = base.head? := by
    cases base with
    | nil => contradiction
    | cons character rest => rfl
  unfold parse
  rw [scan_catchAll hbase hname hslash hnonempty (by rw [hlast]; rfl),bind_some,hany,hhead]
  by_cases hrooted : base.head? = some '/' <;> simp [hrooted]

/-! ## Plain routers -/

theorem Plain.cases {piece : Piece} {rest : List Piece} (hplain : Plain name (piece :: rest)) :
    (∃ character, piece = .char character ∧ Plain name rest) ∨ piece = .catchAll name ∧ rest = [] := by
  rcases hplain with ⟨text,htext⟩ | ⟨base,hbase⟩
  · cases text with
    | nil => contradiction
    | cons character text =>
      obtain ⟨rfl,rfl⟩ := List.cons.inj htext
      exact .inl ⟨character,rfl,.inl ⟨text,rfl⟩⟩
  · cases base with
    | nil =>
      obtain ⟨rfl,rfl⟩ := List.cons.inj hbase
      exact .inr ⟨rfl,rfl⟩
    | cons character base =>
      obtain ⟨rfl,rfl⟩ := List.cons.inj hbase
      exact .inl ⟨character,rfl,.inr ⟨base,rfl⟩⟩

theorem eq_of_conflicts {first second : List Piece} (hfirst : Plain name first) (hsecond : Plain name second)
    (hconflict : conflicts first second = true) : first = second := by
  induction first generalizing second with
  | nil =>
    cases second with
    | nil => rfl
    | cons piece rest => contradiction
  | cons piece rest ih =>
    cases second with
    | nil => contradiction
    | cons other others =>
      rw [conflicts] at hconflict
      rcases hfirst.cases with ⟨character,rfl,hrest⟩ | ⟨rfl,rfl⟩
      · split at hconflict
        next hsame =>
          subst hsame
          rcases hsecond.cases with ⟨_,_,hothers⟩ | ⟨hwild,_⟩
          · rw [ih hrest hothers hconflict]
          · contradiction
        next => contradiction
      · rcases hsecond.cases with ⟨character,rfl,_⟩ | ⟨rfl,rfl⟩
        · rw [if_neg Piece.noConfusion] at hconflict
          contradiction
        · rfl

def Unique (routes : Routes Value) : Prop :=
  ∀ pieces value other, (pieces,value) ∈ routes → (pieces,other) ∈ routes → value = other

theorem mem_advance {character : Char} {routes : Routes Value} {pieces : List Piece} {value : Value} :
    (pieces,value) ∈ advance character routes ↔ (.char character :: pieces,value) ∈ routes := by
  unfold advance
  rw [mem_filterMap]
  constructor
  · rintro ⟨⟨found,other⟩,hmem,hsome⟩
    match found with
    | [] => contradiction
    | .char expected :: rest =>
      dsimp only at hsome
      split at hsome
      next hsame =>
        obtain ⟨rfl,rfl⟩ := Prod.mk.inj (some.inj hsome)
        rw [hsame]
        exact hmem
      next => contradiction
    | .param _ :: _ => contradiction
    | .catchAll _ :: _ => contradiction
  · intro hmem
    exact ⟨_,hmem,if_pos rfl⟩

section Lookup
variable {name : Text} {routes : Routes Value}

theorem plain_advance (hplain : ∀ route ∈ routes, Plain name route.1) (character : Char) :
    ∀ route ∈ advance character routes, Plain name route.1 := by
  intro route hroute
  rcases (hplain _ (mem_advance.mp hroute)).cases with ⟨_,_,hrest⟩ | ⟨hwild,_⟩
  · exact hrest
  · contradiction

theorem unique_advance (hunique : Unique routes) (character : Char) : Unique (advance character routes) :=
  fun _ _ _ hvalue hother => hunique _ _ _ (mem_advance.mp hvalue) (mem_advance.mp hother)

theorem afterParam_plain (hplain : ∀ route ∈ routes, Plain name route.1) : afterParam routes = [] := by
  rw [afterParam,filterMap_eq_nil_iff]
  rintro ⟨pieces,value⟩ hroute
  match pieces with
  | [] => rfl
  | .char _ :: _ => rfl
  | .catchAll _ :: _ => rfl
  | .param _ :: _ =>
    rcases (hplain _ hroute).cases with ⟨_,hcharacter,_⟩ | ⟨hwild,_⟩
    · contradiction
    · contradiction

@[simp] theorem find_nil (inside : Bool) (path : Text) : find inside ([] : Routes Value) path = none := by
  induction path generalizing inside with
  | nil => rfl
  | cons character rest ih => cases inside <;> simp [find,advance,afterParam,caught,ih]

theorem find_cons (hplain : ∀ route ∈ routes, Plain name route.1) (character : Char) (rest : Text) :
    find false routes (character :: rest) = (find false (advance character routes) rest).or (caught routes) := by
  rw [find,if_neg Bool.false_ne_true,afterParam_plain hplain]
  simp [advance]

variable {value : Value}

theorem ended_eq_some (hunique : Unique routes) (hmem : ([],value) ∈ routes) : ended routes = some value := by
  cases hended : ended routes with
  | none =>
    have hnone := findSome?_eq_none_iff.mp hended _ hmem
    contradiction
  | some other =>
    obtain ⟨⟨pieces,found⟩,hfound,hsome⟩ := exists_of_findSome?_eq_some hended
    match pieces with
    | [] => rw [← some.inj hsome,hunique _ _ _ hmem hfound]
    | _ :: _ => contradiction

theorem caught_eq_some (hplain : ∀ route ∈ routes, Plain name route.1) (hunique : Unique routes)
    (hmem : (catchPieces name [],value) ∈ routes) : caught routes = some value := by
  cases hcaught : caught routes with
  | none =>
    have hnone := findSome?_eq_none_iff.mp hcaught _ hmem
    contradiction
  | some other =>
    obtain ⟨⟨pieces,found⟩,hfound,hsome⟩ := exists_of_findSome?_eq_some hcaught
    match pieces with
    | [] => contradiction
    | .char _ :: _ => contradiction
    | .param _ :: _ => contradiction
    | .catchAll _ :: _ :: _ => contradiction
    | [.catchAll _] =>
      rcases (hplain _ hfound).cases with ⟨_,hcharacter,_⟩ | ⟨hname,_⟩
      · contradiction
      · rw [← some.inj hsome]
        rw [hname] at hfound
        rw [hunique _ _ _ hmem hfound]

variable {path : Text}

variable (hplain : ∀ route ∈ routes, Plain name route.1)
include hplain

theorem find_exact (hunique : Unique routes)
    (hmem : (textPieces path,value) ∈ routes) : find false routes path = some value := by
  induction path generalizing routes with
  | nil => exact ended_eq_some hunique hmem
  | cons character rest ih =>
    rw [find_cons hplain,ih (plain_advance hplain character) (unique_advance hunique character)
      (mem_advance.mpr hmem),some_or]

theorem find_none (hexact : ∀ value, (textPieces path,value) ∉ routes)
    (hcaught : ∀ base value, base <+: path → base ≠ path → (catchPieces name base,value) ∉ routes) :
    find false routes path = none := by
  induction path generalizing routes with
  | nil =>
    rw [find,ended,findSome?_eq_none_iff]
    rintro ⟨pieces,value⟩ hroute
    match pieces with
    | [] => exact absurd hroute (hexact value)
    | _ :: _ => rfl
  | cons character rest ih =>
    have hdeeper : find false (advance character routes) rest = none := by
      apply ih (plain_advance hplain character)
      · exact fun value hmem => hexact value (mem_advance.mp hmem)
      · intro base value hfront hproper hmem
        exact hcaught (character :: base) value (cons_prefix_cons.mpr ⟨rfl,hfront⟩)
          (fun heq => hproper (List.cons.inj heq).2) (mem_advance.mp hmem)
    have hhere : caught routes = none := by
      rw [caught,findSome?_eq_none_iff]
      rintro ⟨pieces,value⟩ hroute
      match pieces with
      | [] => rfl
      | .char _ :: _ => rfl
      | .param _ :: _ => rfl
      | .catchAll _ :: _ :: _ => rfl
      | [.catchAll _] =>
        rcases (hplain _ hroute).cases with ⟨_,hcharacter,_⟩ | ⟨hname,_⟩
        · contradiction
        · rw [hname] at hroute
          exact absurd hroute (hcaught [] value nil_prefix (cons_ne_nil character rest).symm)
    rw [find_cons hplain,hdeeper,hhere]
    rfl

theorem find_caught (hunique : Unique routes) (hexact : ∀ value, (textPieces path,value) ∉ routes)
    (hmem : (catchPieces name base,value) ∈ routes) (hfront : base <+: path) (hproper : base ≠ path)
    (hlongest : ∀ other value, other <+: path → other ≠ path → base.length < other.length →
      (catchPieces name other,value) ∉ routes) : find false routes path = some value := by
  induction path generalizing routes base with
  | nil => exact absurd (prefix_nil.mp hfront) hproper
  | cons character rest ih =>
    rw [find_cons hplain]
    cases base with
    | nil =>
      have hdeeper : find false (advance character routes) rest = none := by
        apply find_none (plain_advance hplain character)
        · exact fun value hother => hexact value (mem_advance.mp hother)
        · intro other value hother hsmaller hfound
          exact hlongest (character :: other) value (cons_prefix_cons.mpr ⟨rfl,hother⟩)
            (fun heq => hsmaller (List.cons.inj heq).2) (Nat.succ_pos _) (mem_advance.mp hfound)
      rw [hdeeper,caught_eq_some hplain hunique hmem]
      rfl
    | cons first base =>
      obtain ⟨rfl,htail⟩ := cons_prefix_cons.mp hfront
      have hdeeper : find false (advance first routes) rest = some value := by
        apply ih (plain_advance hplain first) (unique_advance hunique first)
        · exact fun value hother => hexact value (mem_advance.mp hother)
        · exact mem_advance.mpr hmem
        · exact htail
        · exact fun heq => hproper (heq ▸ rfl)
        · intro other value hother hsmaller hlonger hfound
          exact hlongest (first :: other) value (cons_prefix_cons.mpr ⟨rfl,hother⟩)
            (fun heq => hsmaller (List.cons.inj heq).2) (Nat.succ_lt_succ hlonger) (mem_advance.mp hfound)
      rw [hdeeper,some_or]

end Lookup

end Routiq.Core.PathRouter
