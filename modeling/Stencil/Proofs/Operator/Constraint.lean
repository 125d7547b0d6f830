import Stencil.Operator.Constraint
import Stencil.Proofs.Text.Pieces

/-!
# Displayed constraints

The parts of a constraint that was parsed are trimmed pieces without a colon,
so its token is cut into the same parts again.  One token says something else
than the constraint it displays: a handler whose name begins with an equals
sign looks like an alternate source, and is read as one.
-/

namespace Stencil.Constraint

/-! ## The parts of a constraint -/

/-- A name that was written: an argument that is not empty. -/
def IsName (name : String) : Prop :=
  name.toList ≠ [] ∧ Text.IsArgument name.toList

/-- Whether the parts of a constraint can have come from a token. -/
def IsWritten : Constraint → Prop
  | .fallback source literal =>
    (∀ name ∈ source, IsName name) ∧
      ∀ content ∈ literal, Text.IsArgument content.toList
  | .alternate source literal =>
    Text.IsArgument source.toList ∧
      ∀ content ∈ literal, Text.IsArgument content.toList
  | .handler name argument =>
    (∀ written ∈ name, IsName written) ∧
      ∀ content ∈ argument, Text.IsArgument content.toList

theorem isName_of_named?
    {characters : List Char} {name : String}
    (argument : Text.IsArgument characters)
    (named : named? characters = some name) :
    IsName name := by
  rw [named?] at named
  split at named
  · cases named
  · next nonempty =>
      rcases Option.some.inj named with rfl
      rw [IsName, String.toList_ofList]
      exact ⟨fun empty => nonempty (by rw [empty]; rfl), argument⟩

theorem isName_of_bind_named?
    {first : Option (List Char)} {name : String}
    (argument : ∀ piece ∈ first, Text.IsArgument piece)
    (named : first.bind named? = some name) :
    IsName name := by
  rcases Option.bind_eq_some_iff.mp named with ⟨piece, present, found⟩
  exact isName_of_named? (argument piece present) found

/-- The parts of a constraint are the first two of its arguments. -/
theorem isWritten_of_ofArguments?
    {mark : Char} {equals : Bool} {arguments : List (List Char)}
    {constraint : Constraint}
    (written : ∀ piece ∈ arguments, Text.IsArgument piece)
    (found : ofArguments? mark equals arguments = some constraint) :
    constraint.IsWritten := by
  have first : ∀ piece ∈ arguments.head?, Text.IsArgument piece :=
    fun piece member => written piece (List.mem_of_mem_head? member)
  have second :
      ∀ content ∈ (arguments[1]?).map String.ofList,
        Text.IsArgument content.toList := by
    intro content member
    rcases Option.map_eq_some_iff.mp member with ⟨piece, present, rfl⟩
    rw [String.toList_ofList]
    exact written piece (List.mem_of_getElem? present)
  rw [ofArguments?] at found
  split at found
  · rcases Option.some.inj found with rfl
    exact ⟨fun name named => isName_of_bind_named? first named, second⟩
  · split at found
    · split at found
      · rcases Option.some.inj found with rfl
        refine ⟨?_, second⟩
        rw [String.toList_ofList]
        cases head : arguments.head? with
        | none => exact Text.isArgument_nil
        | some piece => exact first piece head
      · rcases Option.some.inj found with rfl
        exact ⟨fun name named => isName_of_bind_named? first named, second⟩
    · cases found

theorem isWritten_of_ofChars?
    {characters : List Char} {constraint : Constraint}
    (found : ofChars? characters = some constraint) :
    constraint.IsWritten := by
  have written (rest : List Char) :
      ∀ piece ∈ Text.arguments rest, Text.IsArgument piece :=
    fun _ member => Text.isArgument_of_mem_arguments member
  rw [ofChars?.eq_def] at found
  split at found
  · cases found
  · exact isWritten_of_ofArguments? (by simp) found
  · exact isWritten_of_ofArguments? (written _) found
  · exact isWritten_of_ofArguments? (written _) found

theorem isWritten_of_parse
    {token : String} {constraint : Constraint}
    (parsed : parse token = .ok constraint) :
    constraint.IsWritten := by
  rw [parse] at parsed
  split at parsed
  · next found =>
      rcases Except.ok.inj parsed with rfl
      exact isWritten_of_ofChars? found
  · cases parsed

/-! ## Reading the arguments back -/

theorem arguments_furtherChars
    {first : List Char} {second : Option String}
    (free : ':' ∉ first)
    (written : ∀ content ∈ second, Text.IsArgument content.toList) :
    Text.arguments (first ++ furtherChars second) =
      Text.trim first :: (second.map String.toList).toList := by
  cases second with
  | none =>
      rw [furtherChars, List.append_nil, Text.arguments_of_not_mem free]
      rfl
  | some content =>
      have argument := written content rfl
      rw [furtherChars, Text.arguments_append_cons free,
        Text.arguments_of_not_mem argument.no_colon,
        argument.trimmed.trim_eq]
      rfl

/-- The second of the arguments that are read back. -/
theorem getElem?_one_read (first : List Char) (second : Option String) :
    ((first :: (second.map String.toList).toList)[1]?).map String.ofList =
      second := by
  cases second with
  | none => rfl
  | some content =>
      show some (String.ofList content.toList) = some content
      rw [String.ofList_toList]

theorem ofArguments?_fallback
    (equals : Bool) (first : List Char) (second : Option String) :
    ofArguments? '?' equals (first :: (second.map String.toList).toList) =
      some (.fallback (named? first) second) := by
  rw [ofArguments?, getElem?_one_read]
  rfl

theorem ofArguments?_alternate
    (first : List Char) (second : Option String) :
    ofArguments? '!' true (first :: (second.map String.toList).toList) =
      some (.alternate (String.ofList first) second) := by
  rw [ofArguments?, getElem?_one_read]
  rfl

theorem ofArguments?_handler
    (first : List Char) (second : Option String) :
    ofArguments? '!' false (first :: (second.map String.toList).toList) =
      some (.handler (named? first) second) := by
  rw [ofArguments?, getElem?_one_read]
  rfl

theorem isArgument_name
    {name : Option String}
    (written : ∀ content ∈ name, IsName content) :
    Text.IsArgument (name.getD "").toList := by
  cases name with
  | none => exact Text.isArgument_nil
  | some content => exact (written content rfl).2

theorem named?_name
    {name : Option String}
    (written : ∀ content ∈ name, IsName content) :
    named? (name.getD "").toList = name := by
  cases name with
  | none => rfl
  | some content =>
      have nonempty : content.toList.isEmpty = false := by
        simpa using (written content rfl).1
      rw [Option.getD_some, named?, nonempty, String.ofList_toList]
      rfl

/-! ## Displaying and parsing -/

/-- The constraint that the token of a constraint stands for. -/
def reread : Constraint → Constraint
  | .handler (some name) argument =>
    match name.toList with
    | '=' :: rest => .alternate (String.ofList (Text.trim rest)) argument
    | _ => .handler (some name) argument
  | constraint => constraint

/-- Whether a constraint is told from every other by its token. -/
def isPlain : Constraint → Bool
  | .handler (some name) _ => name.toList.head? != some '='
  | _ => true

theorem reread_eq_self_iff (constraint : Constraint) :
    constraint.reread = constraint ↔ constraint.isPlain = true := by
  cases constraint with
  | fallback source literal => simp [reread, isPlain]
  | alternate source literal => simp [reread, isPlain]
  | handler name argument =>
      cases name with
      | none => simp [reread, isPlain]
      | some name =>
          rw [reread, isPlain]
          split
          · next rest characters => simp [characters]
          · next other =>
              constructor
              · intro _
                cases characters : name.toList with
                | nil => rfl
                | cons first rest =>
                    have different : first ≠ '=' := by
                      rintro rfl
                      exact other rest characters
                    simpa using different
              · intro _
                rfl

/-- The last character of what stands behind the mark is no blank. -/
theorem isBlank_getLast_furtherChars
    {first : List Char} {second : Option String}
    (trimmed : Text.IsTrimmed first)
    (written : ∀ content ∈ second, Text.IsArgument content.toList) :
    ∀ last ∈ (first ++ furtherChars second).getLast?,
      Text.isBlank last = false := by
  cases second with
  | none =>
      rw [furtherChars, List.append_nil]
      exact trimmed.last_ink
  | some content =>
      intro last member
      rw [furtherChars, List.getLast?_append] at member
      cases characters : content.toList with
      | nil =>
          rw [characters] at member
          obtain rfl : ':' = last := by simpa using member
          decide
      | cons next rest =>
          apply (written content rfl).trimmed.last_ink
          rw [characters] at member ⊢
          simpa using member

theorem trim_cons_furtherChars
    {mark : Char} {first : List Char} {second : Option String}
    (ink : Text.isBlank mark = false)
    (trimmed : Text.IsTrimmed first)
    (written : ∀ content ∈ second, Text.IsArgument content.toList) :
    Text.trim (mark :: (first ++ furtherChars second)) =
      mark :: (first ++ furtherChars second) :=
  (Text.IsTrimmed.cons ink
    (isBlank_getLast_furtherChars trimmed written)).trim_eq

theorem parse_display_of_ofChars?
    {constraint read : Constraint}
    (trimmed : Text.trim constraint.chars = constraint.chars)
    (found : ofChars? constraint.chars = some read) :
    parse constraint.display = .ok read := by
  rw [parse, display, String.toList_ofList, trimmed, found]

theorem ofChars?_handler
    {first : Char} {rest : List Char}
    (other : first ≠ '=') :
    ofChars? ('!' :: first :: rest) =
      ofArguments? '!' false (Text.arguments (first :: rest)) := by
  rw [ofChars?.eq_def]
  split
  · next impossible => cases impossible
  · next shape => cases shape
  · next shape =>
      cases shape
      exact absurd rfl other
  · next shape =>
      cases shape
      rfl

theorem parse_display_fallback
    {source literal : Option String}
    (written : (fallback source literal).IsWritten) :
    parse (fallback source literal).display =
      .ok (.fallback source literal) := by
  rcases written with ⟨names, contents⟩
  by_cases bare : source = none ∧ literal = none
  · rcases bare with ⟨rfl, rfl⟩
    rfl
  · have shape :
        (fallback source literal).chars =
          '?' :: ('=' :: (source.getD "").toList ++ furtherChars literal) := by
      cases source with
      | some name => rfl
      | none =>
          cases literal with
          | some content => rfl
          | none => exact absurd ⟨rfl, rfl⟩ bare
    have argument := isArgument_name names
    apply parse_display_of_ofChars?
    · rw [shape]
      exact trim_cons_furtherChars (by decide)
        (.cons (by decide) argument.trimmed.last_ink) contents
    · rw [shape, List.cons_append]
      show ofArguments? '?' true (Text.arguments _) = _
      rw [arguments_furtherChars argument.no_colon contents,
        argument.trimmed.trim_eq, ofArguments?_fallback, named?_name names]

theorem parse_display_alternate
    {source : String} {literal : Option String}
    (written : (alternate source literal).IsWritten) :
    parse (alternate source literal).display =
      .ok (.alternate source literal) := by
  rcases written with ⟨argument, contents⟩
  apply parse_display_of_ofChars?
  · exact trim_cons_furtherChars (by decide)
      (.cons (by decide) argument.trimmed.last_ink) contents
  · show ofArguments? '!' true (Text.arguments _) = _
    rw [arguments_furtherChars argument.no_colon contents,
      argument.trimmed.trim_eq, ofArguments?_alternate, String.ofList_toList]

theorem parse_display_handler
    {name argument : Option String}
    (written : (handler name argument).IsWritten) :
    parse (handler name argument).display =
      .ok (handler name argument).reread := by
  rcases written with ⟨names, contents⟩
  have first := isArgument_name names
  apply parse_display_of_ofChars?
  · exact trim_cons_furtherChars (by decide) first.trimmed contents
  · have read := arguments_furtherChars first.no_colon contents
    rw [chars]
    cases name with
    | none =>
        cases argument with
        | none => rfl
        | some content =>
            rw [first.trimmed.trim_eq] at read
            show ofChars? ('!' :: ':' :: content.toList) = _
            rw [ofChars?_handler (by decide)]
            refine Eq.trans (congrArg _ read) ?_
            exact ofArguments?_handler [] (some content)
    | some name =>
        have named := named?_name names
        rw [Option.getD_some] at read first named ⊢
        rw [reread]
        split
        · next rest characters =>
            -- The equals sign is taken for that of an alternate source.
            have free : ':' ∉ rest := by
              intro colon
              apply first.no_colon
              rw [characters]
              exact List.mem_cons_of_mem '=' colon
            rw [characters, List.cons_append]
            show ofArguments? '!' true (Text.arguments _) = _
            rw [arguments_furtherChars free contents, ofArguments?_alternate]
        · next other =>
            cases characters : name.toList with
            | nil => exact absurd characters (names name rfl).1
            | cons next rest =>
                have different : next ≠ '=' := by
                  rintro rfl
                  exact other rest characters
                rw [List.cons_append, ofChars?_handler different,
                  ← List.cons_append, ← characters, read,
                  first.trimmed.trim_eq, ofArguments?_handler, named]

/-- The token of a constraint that was written is read as that constraint, or as its lookalike. -/
theorem parse_display
    {constraint : Constraint}
    (written : constraint.IsWritten) :
    parse constraint.display = .ok constraint.reread := by
  cases constraint with
  | fallback source literal => exact parse_display_fallback written
  | alternate source literal => exact parse_display_alternate written
  | handler name argument => exact parse_display_handler written

/--
A constraint that a token stands for is displayed by a token that stands for it
again exactly when it is plain.  The token of a handler whose name begins with
an equals sign stands for the alternate source that the rest of the name names.
-/
theorem parse_display_eq_self_iff_isPlain
    {token : String} {constraint : Constraint}
    (parsed : parse token = .ok constraint) :
    (parse constraint.display = .ok constraint ↔
      constraint.isPlain = true) ∧
    ∀ name rest argument,
      constraint = .handler (some name) argument →
      name.toList = '=' :: rest →
        parse constraint.display =
          .ok (.alternate (String.ofList (Text.trim rest)) argument) := by
  have displayed := parse_display (isWritten_of_parse parsed)
  constructor
  · rw [displayed, Except.ok.injEq]
    exact constraint.reread_eq_self_iff
  · rintro name rest argument rfl characters
    rw [displayed]
    simp only [reread, characters]

/-- Of three arguments the first two survive, without the blanks around them. -/
theorem parse_display_trimmed :
    parse " != alt : 5 : rest " = .ok (.alternate "alt" (some "5")) ∧
      parse (alternate "alt" (some "5")).display =
        .ok (.alternate "alt" (some "5")) := by
  have parsed :
      parse " != alt : 5 : rest " = .ok (.alternate "alt" (some "5")) := rfl
  exact ⟨parsed, (parse_display_eq_self_iff_isPlain parsed).1.mpr rfl⟩

/-- A blank before the equals sign makes it a part of the name of a handler, and is lost. -/
theorem parse_display_blankEquals :
    parse "! =x" = .ok (.handler (some "=x") none) ∧
      parse (handler (some "=x") none).display =
        .ok (.alternate "x" none) ∧
      parse (handler (some "=x") none).display ≠
        .ok (.handler (some "=x") none) :=
  ⟨rfl, rfl, by decide⟩

end Stencil.Constraint
