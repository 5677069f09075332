import Supervisor.Shell.Token

/-!
# Reading scripts

From tokens to commands. Lists of commands nest in brackets and between reserved words; a reserved
word counts as one only where a command may begin.
-/

namespace Supervisor.Shell

namespace Command

/-- Reserved words that end a list of commands. -/
def closers : List String := ["then", "else", "elif", "fi", "do", "done", "esac", "\x7d"]

/-- The word at the front, if it is one of these letters and unquoted. -/
def spelled? : List Token → Option (String × List Token)
  | .word [.text s false] :: rest => some (s, rest)
  | _ => none

/-- What follows a reserved word that has to be there. -/
def after (s : String) (ts : List Token) : Option (List Token) :=
  match spelled? ts with
  | some (s', rest) => if s' = s then some rest else none
  | none => none

def skipLines (ts : List Token) : List Token := ts.dropWhile (· = .line)

/-- A list of commands ends here. -/
def isClosed : List Token → Bool
  | [] => true
  | .sign s :: _ => s = ")" || s = ";;"
  | ts => (spelled? ts).any fun r => closers.contains r.1

/-- The name and the value of a word that assigns. -/
def assignment? : Word → Option (String × Word)
  | .text s false :: rest =>
    let name := s.toList.takeWhile (· ≠ '=')
    match s.toList.dropWhile (· ≠ '=') with
    | [] => none
    | _ :: value =>
      if isName name then
        some (String.ofList name,
          if value = [] then rest else .text (String.ofList value) false :: rest)
      else none
  | _ => none

/-- A redirection at the front. -/
def redirection? : List Token → Option (Redirection × List Token)
  | .readFrom :: .word w :: rest => some (.readFrom w, rest)
  | .writeTo channel append :: .word w :: rest => some (.writeTo channel append w, rest)
  | .join channel target :: rest => some (.join channel target, rest)
  | _ => none

/-- The words and redirections of an invocation. -/
def readInvocation : Nat → Invocation → List Token → Invocation × List Token
  | 0, i, ts => (i, ts)
  | fuel + 1, i, ts =>
    match redirection? ts with
    | some (r, ts) => readInvocation fuel { i with redirections := i.redirections ++ [r] } ts
    | none =>
      match ts with
      | .word w :: ts =>
        match if i.words = [] then assignment? w else none with
        | some a => readInvocation fuel { i with assignments := i.assignments ++ [a] } ts
        | none => readInvocation fuel { i with words := i.words ++ [w] } ts
      | _ => (i, ts)

/-- The redirections after a command in brackets. -/
def readRedirections : Nat → List Token → List Redirection × List Token
  | 0, ts => ([], ts)
  | fuel + 1, ts =>
    match redirection? ts with
    | some (r, ts) => ((r :: (readRedirections fuel ts).1), (readRedirections fuel ts).2)
    | none => ([], ts)

/-- Words as far as they go. -/
def readWords : List Token → List Word × List Token
  | .word w :: ts => (w :: (readWords ts).1, (readWords ts).2)
  | ts => ([], ts)

/-- The patterns of an arm, up to its bracket. -/
def readPatterns : List Token → Option (List Word × List Token)
  | .word w :: .sign "|" :: ts => (readPatterns ts).map fun r => (w :: r.1, r.2)
  | .word w :: .sign ")" :: ts => some ([w], ts)
  | _ => none

/-- The end of the line that begins a loop's body. -/
def skipSeparator (ts : List Token) : List Token :=
  skipLines (match ts with
    | .sign ";" :: ts => ts
    | ts => ts)

mutual

/-- Commands one after the other. -/
def readList : Nat → List Token → Option (Command × List Token)
  | 0, _ => none
  | fuel + 1, ts =>
    let ts := skipLines ts
    if isClosed ts then some (.nothing, ts)
    else do
      let (first, ts) ← readPipeline fuel ts
      let (first, ts) ← readGuards fuel first ts
      let follow := fun (first : Command) (ts : List Token) => do
        match ← readList fuel ts with
        | (.nothing, ts) => return (first, ts)
        | (second, ts) => return (.sequence first second, ts)
      match ts with
      | .sign ";" :: ts | .sign "\n" :: ts => follow first ts
      | .sign "&" :: ts => follow (.background first) ts
      | _ => return (first, ts)

/-- What is to be done only if the commands before it have succeeded, or failed. -/
def readGuards : Nat → Command → List Token → Option (Command × List Token)
  | 0, _, _ => none
  | fuel + 1, first, .sign s :: ts =>
    if s = "&&" ∨ s = "||" then do
      let (second, ts) ← readPipeline fuel (skipLines ts)
      readGuards fuel (.guarded first (s = "&&") second) ts
    else some (first, .sign s :: ts)
  | _, first, ts => some (first, ts)

/-- Commands of which each reads what the one before it prints. -/
def readPipeline : Nat → List Token → Option (Command × List Token)
  | 0, _ => none
  | fuel + 1, ts =>
    match after "!" ts with
    | some ts => do
      let (c, ts) ← readPipeline fuel ts
      return (.negation c, ts)
    | none => do
      let (first, ts) ← readCommand fuel ts
      match ts with
      | .sign "|" :: ts =>
        let (second, ts) ← readPipeline fuel (skipLines ts)
        return (.pipeline first second, ts)
      | _ => return (first, ts)

def readCommand : Nat → List Token → Option (Command × List Token)
  | 0, _ => none
  | fuel + 1, ts => do
    let close := fun (c : Command) (ts : List Token) =>
      match readRedirections ts.length ts with
      | ([], ts) => (c, ts)
      | (redirections, ts) => (Command.redirected c redirections, ts)
    match ts, spelled? ts with
    | .sign "(" :: ts, _ =>
      let (body, ts) ← readList fuel ts
      let .sign ")" :: ts := ts | none
      return close (.subshell body) ts
    | _, some ("\x7b", ts) =>
      let (body, ts) ← readList fuel ts
      return close body (← after "\x7d" ts)
    | _, some ("if", ts) =>
      let (c, ts) ← readBranch fuel ts
      return close c ts
    | _, some ("while", ts) =>
      let (c, ts) ← readLoop fuel true ts
      return close c ts
    | _, some ("until", ts) =>
      let (c, ts) ← readLoop fuel false ts
      return close c ts
    | _, some ("for", ts) =>
      let (name, ts) ← spelled? ts
      let (items, ts) := match after "in" (skipLines ts) with
        | some ts => readWords ts
        | none => ([[Piece.parameter "@" false]], ts)
      let ts ← after "do" (skipSeparator ts)
      let (body, ts) ← readList fuel ts
      return close (.each name items body) (← after "done" ts)
    | _, some ("case", .word subject :: ts) =>
      let ts ← after "in" (skipLines ts)
      let (arms, ts) ← readArms fuel ts
      return close (.choice subject arms) ts
    | _, _ =>
      let (i, rest) := readInvocation ts.length {} ts
      if rest.length = ts.length ∨ isClosed ts then none
      else return (.invoke i, rest)

def readBranch : Nat → List Token → Option (Command × List Token)
  | 0, _ => none
  | fuel + 1, ts => do
    let (condition, ts) ← readList fuel ts
    let (success, ts) ← readList fuel (← after "then" ts)
    match spelled? ts with
    | some ("elif", ts) =>
      let (failure, ts) ← readBranch fuel ts
      return (.branch condition success failure, ts)
    | some ("else", ts) =>
      let (failure, ts) ← readList fuel ts
      return (.branch condition success failure, ← after "fi" ts)
    | _ => return (.branch condition success .nothing, ← after "fi" ts)

def readLoop : Nat → Bool → List Token → Option (Command × List Token)
  | 0, _, _ => none
  | fuel + 1, success, ts => do
    let (condition, ts) ← readList fuel ts
    let (body, ts) ← readList fuel (← after "do" ts)
    return (.loop success condition body, ← after "done" ts)

def readArms : Nat → List Token → Option (List (List Word × Command) × List Token)
  | 0, _ => none
  | fuel + 1, ts =>
    let ts := skipLines ts
    match after "esac" ts with
    | some ts => some ([], ts)
    | none => do
      let (patterns, ts) ← readPatterns (match ts with
        | .sign "(" :: ts => ts
        | ts => ts)
      let (body, ts) ← readList fuel ts
      let (arms, ts) ← readArms fuel (match ts with
        | .sign ";;" :: ts => ts
        | ts => ts)
      return ((patterns, body) :: arms, ts)

end

/-- The command a script gives, if it is well formed. -/
def ofText? (script : String) : Option Command := do
  let ts ← Token.ofText? script
  let (c, rest) ← readList (8 * ts.length + 8) ts
  if rest = [] then return c else none

end Command

end Supervisor.Shell
