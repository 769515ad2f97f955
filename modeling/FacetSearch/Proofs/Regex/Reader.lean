import FacetSearch.Proofs.Regex.Expression
/-!
# Reading regular expressions

A regular expression is read character by character. A frame is what is known of one pair of parentheses that is
still open: the branches before the last bar, the branch since then, and whether a quantifier may follow. What can be
read is the plain language of characters, escaped punctuation, dots, bracket expressions, groups (also those that are
not captured), branches, quantifiers and anchors. Back references, classes by letters, bounds and options fail, and so
does a quantifier that follows nothing, an anchor or another quantifier.
-/

namespace FacetSearch.Regex

/-- What has been read since a parenthesis was opened. -/
structure Frame where
  before : Option Expression
  branch : Expression
  last : Option Expression

namespace Frame

/-- Nothing has been read. -/
def fresh : Frame := ⟨none, .nothing, none⟩

/-- The branch at hand. -/
def settled (f : Frame) : Expression :=
  match f.last with
  | none => f.branch
  | some a => .cat f.branch a

/-- All branches. -/
def whole (f : Frame) : Expression :=
  match f.before with
  | none => f.settled
  | some a => .either a f.settled

/-- An expression that a quantifier may follow. -/
def atom (f : Frame) (a : Expression) : Frame := ⟨f.before, f.settled, some a⟩

/-- An expression that no quantifier may follow. -/
def fixed (f : Frame) (a : Expression) : Frame := ⟨f.before, .cat f.settled a, none⟩

/-- A quantifier takes the last expression. -/
def quantified (f : Frame) (q : Expression → Expression) : Option Frame :=
  f.last.map fun a => ⟨f.before, .cat f.branch (q a), none⟩

/-- A new branch begins. -/
def bar (f : Frame) : Frame := ⟨some f.whole, .nothing, none⟩

/-- The characters of a text, each for itself. -/
def chars (f : Frame) (cs : List Char) : Frame := cs.foldl (fun f c => f.atom (.char c)) f

theorem whole_of_before {f : Frame} (h : f.before = none) : f.whole = f.settled := by
  rw [whole, h]

theorem before_chars (f : Frame) (cs : List Char) : (f.chars cs).before = f.before := by
  induction cs generalizing f with
  | nil => rfl
  | cons c cs ih => exact ih (f.atom (.char c))

theorem settled_chars (f : Frame) (cs : List Char) : (f.chars cs).settled = f.settled.followedBy cs := by
  induction cs generalizing f with
  | nil => rfl
  | cons c cs ih => exact ih (f.atom (.char c))

end Frame

/-- A place inside brackets: at their beginning, after the caret there, further on, after a backslash, after another
opening bracket, and in the name of a class that such a bracket begins. -/
inductive Place where
  | first
  | negated
  | further
  | escape
  | opened
  | named (d : Char)
  | closing (d : Char)

/-- A character inside brackets, which is not the one that closes them. -/
def Place.inside (c : Char) : Option Place :=
  if c = ']' then none
  else if c = '\\' then some .escape
  else if c = '[' then some .opened
  else some .further

/-- The place after one more character; none if the brackets are closed. -/
def Place.next (c : Char) : Place → Option Place
  | .first => if c = '^' then some .negated else if c = ']' then some .further else Place.inside c
  | .negated => if c = ']' then some .further else Place.inside c
  | .further => Place.inside c
  | .escape => some .further
  | .opened => if c = '.' ∨ c = ':' ∨ c = '=' then some (.named c) else Place.inside c
  | .named d => if c = d then some (.closing d) else some (.named d)
  | .closing d => if c = ']' then some .further else if c = d then some (.closing d) else some (.named d)

/-- What the next character belongs to. -/
inductive Mode where
  | plain
  | escape
  | opened
  | option
  | brackets (place : Place) (inside : List Char)

/-- What has been read of an expression: the innermost frame and those around it. -/
structure Reader where
  mode : Mode
  frame : Frame
  outer : List Frame

namespace Reader

/-- One more character, outside brackets. -/
def plain (r : Reader) (c : Char) : Option Reader :=
  match c with
  | '\\' => some ⟨.escape, r.frame, r.outer⟩
  | '^' => some ⟨.plain, r.frame.fixed .start, r.outer⟩
  | '$' => some ⟨.plain, r.frame.fixed .finish, r.outer⟩
  | '.' => some ⟨.plain, r.frame.atom .any, r.outer⟩
  | '|' => some ⟨.plain, r.frame.bar, r.outer⟩
  | '?' => (r.frame.quantified .opt).map fun f => ⟨.plain, f, r.outer⟩
  | '*' => (r.frame.quantified .star).map fun f => ⟨.plain, f, r.outer⟩
  | '+' => (r.frame.quantified .plus).map fun f => ⟨.plain, f, r.outer⟩
  | '(' => some ⟨.opened, .fresh, r.frame :: r.outer⟩
  | ')' =>
    match r.outer with
    | [] => none
    | f :: fs => some ⟨.plain, f.atom r.frame.whole, fs⟩
  | '[' => some ⟨.brackets .first [], r.frame, r.outer⟩
  | '\x7b' => none
  | c => some ⟨.plain, r.frame.atom (.char c), r.outer⟩

/-- One more character. -/
def step (r : Reader) (c : Char) : Option Reader :=
  match r.mode with
  | .plain => r.plain c
  | .escape => if c.isAlphanum then none else some ⟨.plain, r.frame.atom (.char c), r.outer⟩
  | .opened => if c = '?' then some ⟨.option, r.frame, r.outer⟩ else r.plain c
  | .option => if c = ':' then some ⟨.plain, r.frame, r.outer⟩ else none
  | .brackets place inside =>
    match place.next c with
    | none => some ⟨.plain, r.frame.atom (.brackets inside), r.outer⟩
    | some place => some ⟨.brackets place (inside ++ [c]), r.frame, r.outer⟩

/-- More characters. -/
def run (r : Reader) : List Char → Option Reader
  | [] => some r
  | c :: cs =>
    match r.step c with
    | none => none
    | some r => r.run cs

/-- The expression that has been read, if nothing is open. -/
def finish : Reader → Option Expression
  | ⟨.plain, f, []⟩ => some f.whole
  | _ => none

theorem run_cons {r r' : Reader} {c : Char} {cs : List Char} (h : r.step c = some r') : r.run (c :: cs) = r'.run cs := by
  rw [run, h]

theorem run_append {r r' : Reader} {cs cs' : List Char} (h : r.run cs = some r') : r.run (cs ++ cs') = r'.run cs' := by
  induction cs generalizing r with
  | nil =>
    cases h
    rfl
  | cons c cs ih =>
    rw [run] at h
    split at h
    · cases h
    · rename_i r'' hc
      rw [List.cons_append, run_cons hc]
      exact ih h

/-- A group that does not begin with an option is read like anything else. -/
theorem run_opened {f : Frame} {fs : List Frame} {c : Char} {cs : List Char} (h : c ≠ '?') :
    run ⟨.opened, f, fs⟩ (c :: cs) = run ⟨.plain, f, fs⟩ (c :: cs) := by
  rw [run, run, step, step]
  simp only [if_neg h]
  rfl

end Reader

/-- The expression that a text is. -/
def Expression.read (text : List Char) : Option Expression := (Reader.run ⟨.plain, .fresh, []⟩ text).bind Reader.finish

end FacetSearch.Regex
