import Stencil.Node.Codec
import Stencil.Proofs.Evaluation.Stages
import Stencil.Proofs.Operator.Constraint
import Stencil.Proofs.Operator.Tokens

/-!
# Nodes that are written and read back

A node is written without its absent parts, and reading leaves absent what it
does not find.  What comes back of a node that was read and taken through
stages is the node itself but for two things: null is read as undefined, and a
constraint is read as its token says.
-/

namespace Stencil

/-! ## Fields one after the other -/

section Fields

variable
  {Target : Type}
  {decodeField : Target → String → Value → Except DecodeError Target}
  {target final : Target}

theorem decodeFields_eq_foldlM
    (target : Target) (fields : List (String × Value)) :
    decodeFields decodeField target fields =
      fields.foldlM
        (fun target field => decodeField target field.1 field.2) target := by
  induction fields generalizing target with
  | nil => rfl
  | cons field rest ih =>
      rw [List.foldlM_cons, decodeFields]
      cases decodeField target field.1 field.2 with
      | error error => rfl
      | ok next => exact ih next

/-- What one field preserves is preserved by reading fields one after the other. -/
theorem holds_of_decodeFields
    {holds : Target → Prop}
    (preserves :
      ∀ {target name value next},
        holds target → decodeField target name value = .ok next → holds next)
    {fields : List (String × Value)}
    (start : holds target)
    (found : decodeFields decodeField target fields = .ok final) :
    holds final := by
  induction fields generalizing target with
  | nil =>
      rcases Except.ok.inj found with rfl
      exact start
  | cons field rest ih =>
      rw [decodeFields] at found
      cases step : decodeField target field.1 field.2 with
      | error error =>
          rw [step] at found
          cases found
      | ok next =>
          rw [step] at found
          exact ih (preserves start step) found

/-- What one field preserves holds of every record that is read. -/
theorem holds_of_decodeRecord
    {holds : Target → Prop}
    (preserves :
      ∀ {target name value next},
        holds target → decodeField target name value = .ok next → holds next)
    {fieldNames : List String} {document : Value}
    (start : holds target)
    (found : decodeRecord decodeField fieldNames target document = .ok final) :
    holds final := by
  rw [decodeRecord.eq_def] at found
  split at found
  · exact holds_of_decodeFields preserves start found
  · split at found
    · next read =>
        split at found
        · rcases Except.ok.inj found with rfl
          exact holds_of_decodeFields preserves start read
        · cases found
    · cases found
  · cases found

end Fields

/-! ## Members that may be left out -/

section Members

variable {Target Item : Type}

theorem foldlM_cons_of_ok
    {read : Target → String × Value → Except DecodeError Target}
    {target : Target} (next : Target)
    {member : String × Value} {rest : List (String × Value)}
    (found : read target member = .ok next) :
    (member :: rest).foldlM read target = rest.foldlM read next := by
  rw [List.foldlM_cons, found]
  rfl

theorem foldlM_optional
    (read : Target → String × Value → Except DecodeError Target)
    (target : Target)
    (item? : Option Item)
    (member : Item → String × Value)
    (rest : List (String × Value)) :
    ((item?.map member).toList ++ rest).foldlM read target =
      ((item?.map fun item => read target (member item)).getD
          (.ok target)).bind fun next => rest.foldlM read next := by
  cases item? with
  | none => rfl
  | some item => rfl

theorem foldlM_optional_of_ok
    {read : Target → String × Value → Except DecodeError Target}
    {target : Target} (next : Target)
    {item? : Option Item} {member : Item → String × Value}
    {rest : List (String × Value)}
    (found :
      (item?.map fun item => read target (member item)).getD (.ok target) =
        .ok next) :
    ((item?.map member).toList ++ rest).foldlM read target =
      rest.foldlM read next := by
  rw [foldlM_optional, found]
  rfl

end Members

theorem parse_of_decodeToken
    {Operator : Type}
    {parse : String → Except TokenError Operator}
    {value : Value} {operator : Operator}
    (decoded : decodeToken parse value = .ok (some operator)) :
    ∃ token, parse token = .ok operator := by
  rw [decodeToken.eq_def] at decoded
  split at decoded
  · cases decoded
  · next token =>
      split at decoded
      · next parsed =>
          cases decoded
          exact ⟨token, parsed⟩
      · cases decoded
  · cases decoded

/-! ## Depths and markers -/

theorem Number.toCount?_ofNat (value : Nat) :
    (Number.ofNat value).toCount? =
      if value < Numeral.countLimit then some value else none := by
  rw [ofNat, ofInt]
  by_cases fits : value < Numeral.countLimit
  · have inside :
        -(Numeral.integerLimit : Int) ≤ value ∧
          (value : Int) < Numeral.countLimit := by omega
    have nonnegative : ¬(value : Int) < 0 := by omega
    rw [dif_pos inside, if_pos fits, toCount?, if_neg nonnegative,
      Int.natAbs_natCast]
  · have outside :
        ¬(-(Numeral.integerLimit : Int) ≤ value ∧
          (value : Int) < Numeral.countLimit) := by omega
    rw [dif_neg outside, if_neg fits, toCount?]

theorem Number.lt_of_toCount?
    {quantity : Number} {count : Nat}
    (counted : quantity.toCount? = some count) :
    count < Numeral.countLimit := by
  cases quantity with
  | whole integer =>
      have upper := integer.upper
      rw [toCount?] at counted
      split at counted
      · cases counted
      · rcases Option.some.inj counted with rfl
        omega
  | double float => cases counted

theorem Depth.decode_encode
    {depth : Depth}
    (bounded : depth.isBounded = true) :
    Depth.decode depth.encode = .ok depth := by
  cases depth with
  | finite levels =>
      have fits : levels < Numeral.countLimit := by
        simpa [isBounded] using bounded
      rw [encode, Value.ofNat, decode, Number.toCount?_ofNat, if_pos fits]
  | unbounded => rfl

theorem Depth.isBounded_of_decode
    {value : Value} {depth : Depth}
    (decoded : Depth.decode value = .ok depth) :
    depth.isBounded = true := by
  rw [decode.eq_def] at decoded
  split at decoded
  · split at decoded
    · next counted =>
        rcases Except.ok.inj decoded with rfl
        simpa [isBounded] using Number.lt_of_toCount? counted
    · cases decoded
  · split at decoded
    · rcases Except.ok.inj decoded with rfl
      rfl
    · cases decoded
  · cases decoded

theorem Node.decodeMark_ofNat (mark : Mark) :
    Node.decodeMark (.ofNat mark.toNat) = .ok mark := by
  have small : mark.toNat < 256 := mark.toNat_lt
  have fits : mark.toNat < Numeral.countLimit :=
    small.trans (by decide)
  rw [Value.ofNat, decodeMark, Number.toCount?_ofNat, if_pos fits]
  dsimp only
  rw [if_pos small, UInt8.ofNat_toNat]

/-! ## Operators -/

namespace Operators

/-- What is known of operators that were read, whatever tokens they were written as. -/
structure IsWritten (operators : Operators) : Prop where
  query : ∀ take ∈ operators.query, take.isBounded = true
  constraint : ∀ constraint ∈ operators.constraint, constraint.IsWritten
  symbol : ∀ symbol ∈ operators.symbol, symbol.IsWritten

theorem isWritten_empty : IsWritten {} where
  query := nofun
  constraint := nofun
  symbol := nofun

theorem IsWritten.decodeField
    {operators next : Operators} {name : String} {value : Value}
    (written : operators.IsWritten)
    (decoded : operators.decodeField name value = .ok next) :
    next.IsWritten := by
  rcases written with ⟨query, constraint, symbol⟩
  rw [Operators.decodeField] at decoded
  split_ifs at decoded
  · rcases map_eq_ok_iff.mp decoded with ⟨_, read, rfl⟩
    refine ⟨?_, constraint, symbol⟩
    rintro take rfl
    rcases parse_of_decodeToken read with ⟨_, parsed⟩
    exact Take.isBounded_of_parse parsed
  · rcases map_eq_ok_iff.mp decoded with ⟨_, read, rfl⟩
    refine ⟨query, ?_, symbol⟩
    rintro declared rfl
    rcases parse_of_decodeToken read with ⟨_, parsed⟩
    exact Constraint.isWritten_of_parse parsed
  · rcases map_eq_ok_iff.mp decoded with ⟨_, read, rfl⟩
    refine ⟨query, constraint, ?_⟩
    rintro declared rfl
    rcases parse_of_decodeToken read with ⟨_, parsed⟩
    exact SymbolOperator.isWritten_of_parse parsed
  -- Enumerations and inceptions are read back whatever they were written as.
  · rcases map_eq_ok_iff.mp decoded with ⟨_, _, rfl⟩
    exact ⟨query, constraint, symbol⟩
  · rcases map_eq_ok_iff.mp decoded with ⟨_, _, rfl⟩
    exact ⟨query, constraint, symbol⟩
  · rcases Except.ok.inj decoded with rfl
    exact ⟨query, constraint, symbol⟩

theorem isWritten_of_decode
    {value : Value} {operators : Operators}
    (decoded : decode value = .ok operators) :
    operators.IsWritten :=
  holds_of_decodeRecord IsWritten.decodeField isWritten_empty decoded

theorem isEmpty_iff (operators : Operators) :
    operators.isEmpty = true ↔ operators = {} := by
  rcases operators with ⟨query, constraint, symbol, enumerate, inception⟩
  simp [isEmpty, and_assoc]

theorem decodeField_inception (operators : Operators) (value : Value) :
    operators.decodeField "inception" value =
      (decodeToken Inception.parse value).map fun inception =>
        { operators with inception } := by
  rw [decodeField]
  rfl

/-- What comes back of operators that are written and read. -/
def reread (operators : Operators) : Except DecodeError Operators :=
  let constraint := operators.constraint.map Constraint.reread
  match operators.inception with
  | none => .ok { operators with constraint }
  | some inception =>
    if inception.depth.isBounded then .ok { operators with constraint }
    else .error (.token (.invalidDepth inception.display))

/-- A declared operator is read as its token says, and none is read where none is declared. -/
theorem foldlM_token
    {Operator : Type}
    (parse : String → Except TokenError Operator)
    (display : Operator → String)
    (reread : Operator → Operator)
    (declare : Option Operator → Operators)
    {name : String} {declared : Option Operator}
    (decodes :
      ∀ value,
        (declare none).decodeField name value =
          (decodeToken parse value).map declare)
    (parsed :
      ∀ operator ∈ declared,
        parse (display operator) = .ok (reread operator))
    (rest : List (String × Value)) :
    (((declared.map display).map fun token =>
          (name, Value.text token)).toList ++ rest).foldlM
        (fun operators field => operators.decodeField field.1 field.2)
        (declare none) =
      rest.foldlM
        (fun operators field => operators.decodeField field.1 field.2)
        (declare (declared.map reread)) := by
  cases declared with
  | none => rfl
  | some operator =>
      show ((declare none).decodeField name (.text (display operator))).bind
        _ = _
      rw [decodes, decodeToken, parsed operator rfl]
      rfl

theorem decode_encode
    {operators : Operators}
    (written : operators.IsWritten) :
    decode operators.encode = operators.reread := by
  rcases operators with ⟨query, constraint, symbol, enumerate, inception⟩
  rw [encode, decode, decodeRecord, decodeFields_eq_foldlM]
  simp only [List.append_assoc]
  rw [foldlM_token Take.parse Take.display (fun take => take)
      (fun query => { query })
      (fun _ => rfl)
      (fun take declared => Take.parse_display (written.query take declared)),
    foldlM_token Constraint.parse Constraint.display Constraint.reread
      (fun constraint => { query := _, constraint })
      (fun _ => rfl)
      (fun declared member =>
        Constraint.parse_display (written.constraint declared member)),
    foldlM_token SymbolOperator.parse SymbolOperator.display
      (fun symbol => symbol)
      (fun symbol => { query := _, constraint := _, symbol })
      (fun _ => rfl)
      (fun declared member =>
        SymbolOperator.parse_display (written.symbol declared member)),
    foldlM_token Enumeration.parse Enumeration.display
      (fun enumeration => enumeration)
      (fun enumerate =>
        { query := _, constraint := _, symbol := _, enumerate })
      (fun _ => rfl)
      (fun enumeration _ => Enumeration.parse_display enumeration)]
  simp only [Option.map_id_fun']
  cases inception with
  | none => rfl
  | some inception =>
      rw [Option.map_some, Option.map_some, Option.toList_some,
        List.foldlM_cons, decodeField_inception, decodeToken,
        Inception.parse_display, reread]
      by_cases bounded : inception.depth.isBounded = true
      · simp only [if_pos bounded]
        rfl
      · simp only [if_neg bounded]
        rfl

theorem isBounded_of_reread
    {operators next : Operators}
    (kept : operators.reread = .ok next) :
    ∀ inception ∈ operators.inception, inception.depth.isBounded = true := by
  intro inception declared
  rw [reread, Option.mem_def.mp declared] at kept
  dsimp only at kept
  split at kept
  · assumption
  · cases kept

/-- Operators come back as they are if their tokens say what they are. -/
theorem reread_eq_ok_self_iff (operators : Operators) :
    operators.reread = .ok operators ↔
      (∀ constraint ∈ operators.constraint, constraint.isPlain = true) ∧
        ∀ inception ∈ operators.inception,
          inception.depth.isBounded = true := by
  rcases operators with ⟨query, constraint, symbol, enumerate, inception⟩
  have plain :
      constraint.map Constraint.reread = constraint ↔
        ∀ declared ∈ constraint, declared.isPlain = true := by
    cases constraint with
    | none => simp
    | some constraint => simp [Constraint.reread_eq_self_iff]
  cases inception with
  | none => simp [reread, plain]
  | some inception =>
      by_cases bounded : inception.depth.isBounded = true
      · simp [reread, plain, bounded]
      · simp [reread, bounded]

end Operators

/-! ## Nodes -/

namespace Node

/-- What is known of a node that was read. -/
structure IsWritten (node : Node) : Prop where
  operators : node.operators.IsWritten
  depth : ∀ depth ∈ node.depth, depth.isBounded = true

theorem isWritten_empty : IsWritten {} where
  operators := Operators.isWritten_empty
  depth := nofun

theorem IsWritten.decodeField
    {node next : Node} {name : String} {value : Value}
    (written : node.IsWritten)
    (decoded : node.decodeField name value = .ok next) :
    next.IsWritten := by
  rcases written with ⟨operators, depth⟩
  rw [Node.decodeField.eq_def] at decoded
  split_ifs at decoded
  · split at decoded
    · rcases Except.ok.inj decoded with rfl
      exact ⟨operators, depth⟩
    · cases decoded
  · rcases map_eq_ok_iff.mp decoded with ⟨_, read, rfl⟩
    exact ⟨Operators.isWritten_of_decode read, depth⟩
  · split at decoded
    · rcases Except.ok.inj decoded with rfl
      exact ⟨operators, depth⟩
    · rcases Except.ok.inj decoded with rfl
      exact ⟨operators, depth⟩
    · cases decoded
  · split at decoded
    · rcases Except.ok.inj decoded with rfl
      exact ⟨operators, depth⟩
    · rcases Except.ok.inj decoded with rfl
      exact ⟨operators, depth⟩
  · rcases map_eq_ok_iff.mp decoded with ⟨_, _, rfl⟩
    exact ⟨operators, depth⟩
  · split at decoded
    · rcases Except.ok.inj decoded with rfl
      exact ⟨operators, depth⟩
    · rcases Except.ok.inj decoded with rfl
      exact ⟨operators, depth⟩
    · cases decoded
  · rcases map_eq_ok_iff.mp decoded with ⟨_, _, rfl⟩
    exact ⟨operators, depth⟩
  · split at decoded
    · rcases Except.ok.inj decoded with rfl
      exact ⟨operators, nofun⟩
    · rcases map_eq_ok_iff.mp decoded with ⟨found, read, rfl⟩
      refine ⟨operators, fun depth held => ?_⟩
      rcases Option.some.inj held with rfl
      exact Depth.isBounded_of_decode read
  · rcases Except.ok.inj decoded with rfl
    exact ⟨operators, depth⟩

theorem isWritten_of_decode
    {value : Value} {node : Node}
    (decoded : decode value = .ok node) :
    node.IsWritten :=
  holds_of_decodeRecord IsWritten.decodeField isWritten_empty decoded

/-- The value that is read where a value was written: null is read as undefined. -/
def rereadValue : Option Value → Option Value
  | some .null => none
  | value => value

/-- What comes back of a node that is written and read. -/
def reread (node : Node) : Except DecodeError Node :=
  node.operators.reread.map fun operators =>
    { node with operators, value := rereadValue node.value }

/-! ### Fields read back -/

theorem decodeField_value (node : Node) (value : Value) :
    node.decodeField "value" value =
      .ok { node with value := rereadValue (some value) } := by
  cases value with
  | null => simp [decodeField.eq_def, rereadValue]
  | _ => simp [decodeField.eq_def, rereadValue]

theorem decodeField_mark (node : Node) (mark : Mark) :
    node.decodeField "@meta" (.ofNat mark.toNat) =
      .ok { node with mark } := by
  have shape :
      node.decodeField "@meta" (.ofNat mark.toNat) =
        (decodeMark (.ofNat mark.toNat)).map fun mark => { node with mark } := by
    rw [decodeField.eq_def]
    rfl
  rw [shape, decodeMark_ofNat]
  rfl

theorem decodeField_mode (node : Node) (mode : InceptionMode) :
    node.decodeField "$inception" (.text mode.display) =
      .ok { node with mode := some mode } := by
  simp [decodeField.eq_def, decodeToken, InceptionMode.parse_display,
    Except.map]

theorem decodeField_depth
    {depth : Depth}
    (bounded : depth.isBounded = true)
    (node : Node) :
    node.decodeField "$depth" depth.encode =
      .ok { node with depth := some depth } := by
  have present : depth.encode ≠ .null := by
    cases depth with
    | finite levels => exact nofun
    | unbounded => exact nofun
  have read := Depth.decode_encode bounded
  generalize depth.encode = written at present read
  simp [decodeField.eq_def, read, Except.map]

/-- The operators that come back are those of the node, or the first thing that is refused. -/
theorem foldlM_operators
    {operators : Operators}
    (written : operators.IsWritten)
    (path : String)
    (rest : List (String × Value)) :
    (((if operators.isEmpty then none else some operators.encode).map
          fun value => ("operators", value)).toList ++ rest).foldlM
        (fun node field => node.decodeField field.1 field.2)
        ({ path } : Node) =
      operators.reread.bind fun operators =>
        rest.foldlM (fun node field => node.decodeField field.1 field.2)
          { path, operators } := by
  rw [foldlM_optional]
  by_cases empty : operators.isEmpty = true
  · rw [if_pos empty, (Operators.isEmpty_iff operators).mp empty]
    rfl
  · rw [if_neg empty]
    show ((Operators.decode operators.encode).map _).bind _ = _
    rw [Operators.decode_encode written]
    cases operators.reread with
    | error error => rfl
    | ok operators => rfl

theorem decode_encode
    {node : Node}
    (written : node.operators.IsWritten)
    (bounded :
      ∀ operators,
        node.operators.reread = .ok operators →
          ∀ depth ∈ node.depth, depth.isBounded = true) :
    decode node.encode = node.reread := by
  rcases node with ⟨path, operators, pipes, value, mark, tag, mode, depth⟩
  rw [encode, decode, decodeRecord, decodeFields_eq_foldlM]
  simp only [List.append_assoc, List.cons_append, List.nil_append]
  rw [foldlM_cons_of_ok { path } rfl, foldlM_operators written, reread]
  dsimp only at bounded ⊢
  -- Only the operators can be refused; each later field is read onto those before it.
  cases kept : operators.reread with
  | error error => rfl
  | ok operators =>
      dsimp only [Except.bind, Except.map]
      rw [foldlM_optional_of_ok { path, operators, pipes } ?pipes,
        foldlM_optional_of_ok
          { path, operators, pipes, value := rereadValue value } ?value,
        foldlM_cons_of_ok
          { path, operators, pipes, value := rereadValue value, mark } ?mark,
        foldlM_optional_of_ok
          { path, operators, pipes, value := rereadValue value, mark, tag }
          ?tag,
        foldlM_optional_of_ok
          { path, operators, pipes, value := rereadValue value, mark, tag,
            mode }
          ?mode,
        ← List.append_nil (Option.toList _),
        foldlM_optional_of_ok
          { path, operators, pipes, value := rereadValue value, mark, tag,
            mode, depth }
          ?depth]
      · rfl
      case pipes =>
        cases pipes with
        | none => rfl
        | some members => rfl
      case value =>
        cases value with
        | none => rfl
        | some value => exact decodeField_value _ value
      case mark => exact decodeField_mark _ mark
      case tag =>
        cases tag with
        | none => rfl
        | some tag => rfl
      case mode =>
        cases mode with
        | none => rfl
        | some mode =>
            rw [Option.map_some, Option.map_some, Option.getD_some,
              decodeField_mode]
      case depth =>
        cases depth with
        | none => rfl
        | some depth =>
            exact decodeField_depth (bounded operators kept depth rfl) _

/-- Whether a node is the same when it is written and read. -/
structure IsStorable (node : Node) : Prop where
  value : node.value ≠ some .null
  constraint :
    ∀ constraint ∈ node.operators.constraint, constraint.isPlain = true
  inception :
    ∀ inception ∈ node.operators.inception,
      inception.depth.isBounded = true

theorem rereadValue_eq_self_iff (value : Option Value) :
    rereadValue value = value ↔ value ≠ some .null := by
  rcases value with _ | value
  · simp [rereadValue]
  · cases value with
    | null => simp [rereadValue]
    | _ => simp [rereadValue]

theorem reread_eq_ok_self_iff (node : Node) :
    node.reread = .ok node ↔ node.IsStorable := by
  rcases node with ⟨path, operators, pipes, value, mark, tag, mode, depth⟩
  constructor
  · intro kept
    rcases map_eq_ok_iff.mp kept with ⟨next, declared, same⟩
    injection same with _ operators_eq _ value_eq
    rw [operators_eq] at declared
    rcases (Operators.reread_eq_ok_self_iff operators).mp declared with
      ⟨constraint, inception⟩
    exact ⟨(rereadValue_eq_self_iff value).mp value_eq, constraint, inception⟩
  · rintro ⟨defined, constraint, inception⟩
    have declared : operators.reread = .ok operators :=
      (Operators.reread_eq_ok_self_iff operators).mpr ⟨constraint, inception⟩
    rw [reread, declared, (rereadValue_eq_self_iff value).mpr defined]
    rfl

theorem decode_encode_of_stages
    {document : Value} {read node : Node}
    (decoded : decode document = .ok read)
    (stages : Relation.ReflTransGen Stage read node) :
    decode node.encode = node.reread := by
  have written := isWritten_of_decode decoded
  have retains := retains_of_stages stages
  apply decode_encode
  · rw [retains.operators_eq]
    exact written.operators
  · intro operators kept depth held
    rcases retains.depth_eq with same | ⟨inception, declared, prepared⟩
    · rw [same] at held
      exact written.depth depth held
    · rw [prepared] at held
      rcases Option.some.inj held with rfl
      rw [← retains.operators_eq] at declared
      exact Operators.isBounded_of_reread kept inception declared

/--
A node that was read and taken through stages comes back with its operators as
their tokens say and null as undefined, which is the node itself exactly when
it is storable.
-/
theorem decode_encode_eq_self_iff_isStorable
    {document : Value} {read node : Node}
    (decoded : decode document = .ok read)
    (stages : Relation.ReflTransGen Stage read node) :
    decode node.encode = node.reread ∧
      (decode node.encode = .ok node ↔ node.IsStorable) := by
  have back := decode_encode_of_stages decoded stages
  rw [back]
  exact ⟨rfl, node.reread_eq_ok_self_iff⟩

/-- An inception that is prepared and then evaluated comes back with its depth. -/
theorem decode_encode_prepared :
    decode
        (encode
          { path := "a",
            operators :=
              { query := some ⟨some 2⟩,
                inception := some ⟨.lead, .finite 2⟩ },
            value := some (.array []),
            mark := Mark.query,
            mode := some .lead,
            depth := some (.finite 2) }) =
      .ok
        { path := "a",
          operators :=
            { query := some ⟨some 2⟩,
              inception := some ⟨.lead, .finite 2⟩ },
          value := some (.array []),
          mark := Mark.query,
          mode := some .lead,
          depth := some (.finite 2) } := by
  have decoded :
      decode
          (.object
            [("path", .text "a"),
              ("operators",
                .object
                  [("query", .text "+2"), ("inception", .text ">>")])]) =
        .ok
          { path := "a",
            operators :=
              { query := some ⟨some 2⟩,
                inception := some ⟨.lead, .finite 2⟩ } } := rfl
  have evaluated :
      (Node.evaluate {} []
          { path := "a",
            operators :=
              { query := some ⟨some 2⟩,
                inception := some ⟨.lead, .finite 2⟩ },
            mode := some .lead,
            depth := some (.finite 2) }).run.run {} =
        (.ok
            { path := "a",
              operators :=
                { query := some ⟨some 2⟩,
                  inception := some ⟨.lead, .finite 2⟩ },
              value := some (.array []),
              mark := Mark.query,
              mode := some .lead,
              depth := some (.finite 2) },
          {}) := rfl
  refine (decode_encode_eq_self_iff_isStorable decoded
    (.tail (.single (.prepare _)) (.evaluate evaluated))).2.mpr
    ⟨nofun, nofun, ?_⟩
  intro inception declared
  rcases Option.some.inj declared with rfl
  rfl

/-- Null in place of what is missing is a value, and comes back as undefined. -/
theorem decode_encode_null :
    ∃ read node : Node,
      decode
          (.object
            [("path", .text "a"),
              ("operators", .object [("constraints", .text "!=")])]) =
        .ok read ∧
      (read.evaluate {} []).run.run {} = (.ok node, {}) ∧
      node.value = some .null ∧
      decode node.encode = .ok { node with value := none } ∧
      decode node.encode ≠ .ok node := by
  refine ⟨_, _, rfl, rfl, rfl, rfl, ?_⟩
  intro same
  cases same

end Node

end Stencil
