/-
Well-nested words of command names. A word is well-nested if it closes every
block that it opens, in order; what may stand in front of other names so that
they come out well-nested is told by the kinds of the blocks that are open.

Reading names from the left moves these kinds, and gets stuck at a name that
continues or closes a block of another kind than the innermost one. A word can be
completed to a well-nested one exactly if reading it does not get stuck.
-/

import Foldback.Template.Block

namespace Foldback

/-! ### What names do -/

/-- What a command does to the open blocks. -/
inductive Role where
  /-- It opens a block. -/
  | opens (kind : BlockKind)
  /-- It replaces the innermost block, which must be of the kind, by another one of it. -/
  | continues (kind : BlockKind)
  /-- It closes the innermost block, which must be of the kind. -/
  | closes (kind : BlockKind)
  deriving DecidableEq, Repr

/-- The kind of the block that must be open. -/
def Role.needs : Role → Option BlockKind
  | .opens _ => none
  | .continues kind | .closes kind => some kind

/-- The kind of the block that begins with the command. -/
def Role.begins : Role → Option BlockKind
  | .opens kind | .continues kind => some kind
  | .closes _ => none

/-- What the command with a name does. -/
def role? : String → Option Role
  | "if" => some (.opens .conditional)
  | "elif" | "else" => some (.continues .conditional)
  | "endif" => some (.closes .conditional)
  | "with" | "withfile" => some (.opens .binding)
  | "endwith" => some (.closes .binding)
  | _ => none

/-- The names of the commands that do it. -/
def Role.names : Role → List String
  | .opens .conditional => ["if"]
  | .continues .conditional => ["elif", "else"]
  | .closes .conditional => ["endif"]
  | .opens .binding => ["with", "withfile"]
  | .continues .binding => []
  | .closes .binding => ["endwith"]

theorem role?_eq_some_iff {name : String} {role : Role} :
    role? name = some role ↔ name ∈ role.names := by
  constructor
  · unfold role?
    split <;> rintro ⟨⟩ <;> simp [Role.names]
  · have each : ∀ name ∈ role.names, role? name = some role := by
      rcases role with kind | kind | kind <;> cases kind <;> decide
    exact each name

/-! ### Well-nested words -/

/-- The branches of a conditional behind the first one, each with the name that it begins with. -/
def branchWord (branches : List (String × List String)) : List String :=
  branches.flatMap fun (opener, body) => opener :: body

/-- Words of command names in which every block is closed where it must be. -/
inductive Nested : List String → Prop where
  | empty : Nested []
  | conditional {body rest : List String} {branches : List (String × List String)}
      (inside : Nested body) (openers : ∀ branch ∈ branches, branch.1 ∈ ["elif", "else"])
      (bodies : ∀ branch ∈ branches, Nested branch.2) (behind : Nested rest) :
      Nested ("if" :: (body ++ branchWord branches ++ "endif" :: rest))
  | binding {opener : String} {body rest : List String} (opens : opener ∈ ["with", "withfile"])
      (inside : Nested body) (behind : Nested rest) :
      Nested (opener :: (body ++ "endwith" :: rest))

/-- The word can be completed to a well-nested one. -/
def Viable (word : List String) : Prop :=
  ∃ rest, Nested (word ++ rest)

theorem Viable.of_append {first second : List String} (viable : Viable (first ++ second)) :
    Viable first := by
  obtain ⟨rest, nested⟩ := viable
  rw [List.append_assoc] at nested
  exact ⟨second ++ rest, nested⟩

theorem Nested.append {first second : List String} (before : Nested first)
    (after : Nested second) : Nested (first ++ second) := by
  induction before with
  | empty => exact after
  | conditional inside openers bodies behind _ _ inductionHypothesis =>
    simpa using Nested.conditional inside openers bodies inductionHypothesis
  | binding opens inside behind _ inductionHypothesis =>
    simpa using Nested.binding opens inside inductionHypothesis

/-! ### Reading -/

/-- The kinds of the open blocks behind a command, innermost first; none if it does not fit. -/
def Role.move : Role → List BlockKind → Option (List BlockKind)
  | .opens kind, kinds => some (kind :: kinds)
  | .continues kind, found :: outer => if found = kind then some (found :: outer) else none
  | .closes kind, found :: outer => if found = kind then some outer else none
  | .continues _, [] | .closes _, [] => none

def readName (kinds : List BlockKind) (name : String) : Option (List BlockKind) :=
  (role? name).bind fun role => role.move kinds

/-- The kinds of the open blocks behind a word; none if it gets stuck. -/
def readWord (kinds : List BlockKind) (word : List String) : Option (List BlockKind) :=
  word.foldlM readName kinds

theorem readWord_cons (kinds : List BlockKind) (name : String) (word : List String) :
    readWord kinds (name :: word) = (readName kinds name).bind fun next => readWord next word :=
  List.foldlM_cons

theorem readWord_append (kinds : List BlockKind) (first second : List String) :
    readWord kinds (first ++ second) =
      (readWord kinds first).bind fun middle => readWord middle second :=
  List.foldlM_append

variable {name : String} {role : Role} {kinds next : List BlockKind}

theorem readName_of_role (named : role? name = some role) (kinds : List BlockKind) :
    readName kinds name = role.move kinds := by
  rw [readName, named]
  rfl

theorem readName_nil {expected : BlockKind}
    (needs : (role? name).bind Role.needs = some expected) : readName [] name = none := by
  obtain ⟨role, named, needs⟩ := Option.bind_eq_some_iff.mp needs
  rw [readName_of_role named]
  cases role with
  | opens kind => cases needs
  | continues kind | closes kind => rfl

theorem readName_cons_of_ne {expected found : BlockKind}
    (needs : (role? name).bind Role.needs = some expected) (other : found ≠ expected)
    (outer : List BlockKind) : readName (found :: outer) name = none := by
  obtain ⟨role, named, needs⟩ := Option.bind_eq_some_iff.mp needs
  rw [readName_of_role named]
  cases role with
  | opens kind => cases needs
  | continues kind | closes kind =>
    cases needs
    exact if_neg other

/-- A block that begins with a command is open behind it. -/
theorem readName_ne_nil {kind : BlockKind}
    (opening : (role? name).bind Role.begins = some kind) : readName kinds name ≠ some [] := by
  obtain ⟨role, named, begins⟩ := Option.bind_eq_some_iff.mp opening
  rw [readName_of_role named]
  cases role with
  | opens _ => simp [Role.move]
  | continues _ => cases kinds <;> simp [Role.move]
  | closes _ => cases begins

/-! ### Well-nested words leave the kinds alone -/

theorem readWord_branches {branches : List (String × List String)}
    (openers : ∀ branch ∈ branches, branch.1 ∈ ["elif", "else"])
    (bodies : ∀ branch ∈ branches, ∀ kinds, readWord kinds branch.2 = some kinds)
    (outer : List BlockKind) :
    readWord (.conditional :: outer) (branchWord branches) = some (.conditional :: outer) := by
  induction branches with
  | nil => rfl
  | cons branch later inductionHypothesis =>
    obtain ⟨opener, body⟩ := branch
    obtain ⟨listed, openersLater⟩ := List.forall_mem_cons.mp openers
    obtain ⟨inside, bodiesLater⟩ := List.forall_mem_cons.mp bodies
    have named : role? opener = some (.continues .conditional) := role?_eq_some_iff.mpr listed
    rw [branchWord, List.flatMap_cons, List.cons_append, readWord_cons, readName_of_role named]
    show readWord _ (body ++ branchWord later) = _
    rw [readWord_append, inside]
    exact inductionHypothesis openersLater bodiesLater

/-- A well-nested word can be read whatever is open, and leaves it open. -/
theorem Nested.readWord {word : List String} (nested : Nested word) (kinds : List BlockKind) :
    readWord kinds word = some kinds := by
  induction nested generalizing kinds with
  | empty => rfl
  | conditional inside openers bodies behind insideRead bodiesRead behindRead =>
    have opened : readName kinds "if" = some (.conditional :: kinds) := rfl
    have closed : readName (.conditional :: kinds) "endif" = some kinds := rfl
    rw [readWord_cons, opened, Option.bind_some, readWord_append, readWord_append, insideRead,
      Option.bind_some, readWord_branches openers bodiesRead, Option.bind_some, readWord_cons,
      closed, Option.bind_some, behindRead]
  | binding opens inside behind insideRead behindRead =>
    rename_i opener body rest
    have named : role? opener = some (.opens .binding) := role?_eq_some_iff.mpr opens
    have opened : readName kinds opener = some (.binding :: kinds) := readName_of_role named kinds
    have closed : readName (.binding :: kinds) "endwith" = some kinds := rfl
    rw [readWord_cons, opened, Option.bind_some, readWord_append, insideRead, Option.bind_some,
      readWord_cons, closed, Option.bind_some, behindRead]

/-- A word is not well-nested if a block begins in it and nothing behind closes that. -/
theorem not_nested_of_open {kind : BlockKind}
    (opening : (role? name).bind Role.begins = some kind) {inside : List String}
    (nested : Nested inside) (around : List String) :
    ¬Nested (around ++ name :: inside) := by
  intro whole
  have read := whole.readWord []
  rw [readWord_append] at read
  obtain ⟨before, _, onward⟩ := Option.bind_eq_some_iff.mp read
  rw [readWord_cons] at onward
  obtain ⟨behind, opened, closed⟩ := Option.bind_eq_some_iff.mp onward
  rw [nested.readWord behind] at closed
  cases closed
  exact readName_ne_nil opening opened

/-! ### Completing a word -/

/-- The word closes blocks of these kinds, innermost first, and every block that it opens. -/
inductive Completes : List BlockKind → List String → Prop where
  | done {word : List String} (nested : Nested word) : Completes [] word
  | conditional {kinds : List BlockKind} {body rest : List String}
      {branches : List (String × List String)} (inside : Nested body)
      (openers : ∀ branch ∈ branches, branch.1 ∈ ["elif", "else"])
      (bodies : ∀ branch ∈ branches, Nested branch.2) (behind : Completes kinds rest) :
      Completes (.conditional :: kinds) (body ++ branchWord branches ++ "endif" :: rest)
  | binding {kinds : List BlockKind} {body rest : List String} (inside : Nested body)
      (behind : Completes kinds rest) : Completes (.binding :: kinds) (body ++ "endwith" :: rest)

namespace Completes

variable {word : List String}

theorem nested (completes : Completes [] word) : Nested word := by
  cases completes with
  | done nested => exact nested

theorem prepend {first : List String} (before : Nested first) (completes : Completes kinds word) :
    Completes kinds (first ++ word) := by
  cases completes with
  | done nested => exact .done (before.append nested)
  | conditional inside openers bodies behind =>
    simpa using Completes.conditional (before.append inside) openers bodies behind
  | binding inside behind => simpa using Completes.binding (before.append inside) behind

theorem endif (completes : Completes kinds word) :
    Completes (.conditional :: kinds) ("endif" :: word) := by
  have noBranches (branch : String × List String) : branch ∉ [] := List.not_mem_nil
  exact .conditional .empty (fun branch member => absurd member (noBranches branch))
    (fun branch member => absurd member (noBranches branch)) completes

/-- What completes the blocks behind a name completes those before it, with the name in front. -/
theorem of_readName (moved : readName kinds name = some next) (completes : Completes next word) :
    Completes kinds (name :: word) := by
  obtain ⟨role, named, moves⟩ := Option.bind_eq_some_iff.mp moved
  have listed := role?_eq_some_iff.mp named
  -- A command that needs a block finds it innermost; what it leaves open is completed by the word.
  cases role with
  | opens kind =>
    cases moves
    cases completes with
    | conditional inside openers bodies behind =>
      cases List.mem_singleton.mp listed
      have block := Nested.conditional inside openers bodies .empty
      simpa using behind.prepend block
    | binding inside behind =>
      have block := Nested.binding listed inside .empty
      simpa using behind.prepend block
  | continues kind =>
    cases kinds with
    | nil => cases moves
    | cons found outer =>
      obtain ⟨rfl, ⟨⟩⟩ := Option.ite_none_right_eq_some.mp moves
      cases completes with
      | @conditional _ body rest branches inside openers bodies behind =>
        have more : Completes (.conditional :: outer)
            ([] ++ branchWord ((name, body) :: branches) ++ "endif" :: rest) :=
          .conditional .empty (List.forall_mem_cons.mpr ⟨listed, openers⟩)
            (List.forall_mem_cons.mpr ⟨inside, bodies⟩) behind
        simpa [branchWord] using more
      | binding inside behind => cases listed
  | closes kind =>
    cases kinds with
    | nil => cases moves
    | cons found outer =>
      obtain ⟨rfl, ⟨⟩⟩ := Option.ite_none_right_eq_some.mp moves
      cases found with
      | conditional =>
        cases List.mem_singleton.mp listed
        exact completes.endif
      | binding =>
        cases List.mem_singleton.mp listed
        exact .binding .empty completes

theorem of_readWord {first : List String} (moved : Foldback.readWord kinds first = some next)
    (completes : Completes next word) : Completes kinds (first ++ word) := by
  induction first generalizing kinds with
  | nil =>
    cases moved
    exact completes
  | cons name later inductionHypothesis =>
    rw [readWord_cons] at moved
    obtain ⟨middle, here, onward⟩ := Option.bind_eq_some_iff.mp moved
    exact of_readName here (inductionHypothesis onward)

end Completes

theorem exists_completes (kinds : List BlockKind) : ∃ word, Completes kinds word := by
  induction kinds with
  | nil => exact ⟨[], .done .empty⟩
  | cons kind outer inductionHypothesis =>
    obtain ⟨word, completes⟩ := inductionHypothesis
    cases kind with
    | conditional => exact ⟨_, .endif completes⟩
    | binding => exact ⟨_, .binding .empty completes⟩

/-- A word can be completed exactly if it can be read. -/
theorem viable_iff (word : List String) : Viable word ↔ ∃ kinds, readWord [] word = some kinds := by
  constructor
  · rintro ⟨rest, nested⟩
    have read := nested.readWord []
    rw [readWord_append] at read
    obtain ⟨kinds, before, -⟩ := Option.bind_eq_some_iff.mp read
    exact ⟨kinds, before⟩
  · rintro ⟨kinds, read⟩
    obtain ⟨rest, completes⟩ := exists_completes kinds
    exact ⟨rest, (completes.of_readWord read).nested⟩

end Foldback
