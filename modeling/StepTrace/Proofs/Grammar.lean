import StepTrace.Proofs.Literal

/-!
# The grammar of expressions

The reader accepts exactly the token sequences that the grammar derives, and builds the one
tree that groups to the left. `Normal` says which trees group so, and `Spells` which tokens
write a tree from left to right. Main statement: a text reads as a tree exactly where the
tree is normal and the tokens of the text spell it (`parse_eq_ok_iff`).
-/

namespace StepTrace

/-- The value that a token denotes. An integer has a limited number of digits, a
    floating-point number is finite, and the escapes of a string have a meaning. -/
inductive Denotes [CharacterNames] : Symbol → Value → Prop
  | integer {numeral : Numeral} (integer : numeral.isInteger = true)
      (short : numeral.whole.length ≤ Text.digitLimit) :
      Denotes (.number numeral) (.int (Text.natOfDigits numeral.whole))
  | float {numeral : Numeral} (broken : numeral.isInteger = false)
      (finite : (numeral.toBinary64 false).isFinite = true) :
      Denotes (.number numeral) (.float (numeral.toBinary64 false))
  | string {mark : Char} {body : List Char} {points : List Text.Point}
      (decoded : Text.unescape body = some points) : Denotes (.string mark body) (.str ⟨points⟩)

namespace Expr

/-! ## Trees and their tokens -/

/-- A sum or a difference. -/
def IsSum : Expr → Prop
  | binary _ op _ _ => op.isProduct = false
  | _ => False

/-- A product or a quotient. -/
def IsProduct : Expr → Prop
  | binary _ op _ _ => op.isProduct = true
  | _ => False

/-- A tree that groups to the left and binds products more tightly than sums, and signs
    more tightly than both. -/
def Normal : Expr → Prop
  | literal _ _ | name _ _ | input _ => True
  | prompt _ text => text.Normal
  | unary _ _ operand => operand.Normal ∧ ¬ operand.IsSum ∧ ¬ operand.IsProduct
  | binary _ op left right =>
    left.Normal ∧ right.Normal ∧ ¬ right.IsSum ∧
      (op.isProduct = true → ¬ left.IsSum ∧ ¬ right.IsProduct)

/-- The tokens of a tree from left to right. Each node has the column of its operator or of
    its first token; the columns of parentheses are not kept. -/
inductive Spells [CharacterNames] : Expr → List Token → Prop
  | literal {symbol : Symbol} {column : Nat} {value : Value} (denotes : Denotes symbol value) :
      Spells (.literal column value) [⟨symbol, column⟩]
  | name {column : Nat} {text : String} : Spells (.name column text) [⟨.name text, column⟩]
  | unary {column : Nat} {op : Operator} {sign : Sign} {operand : Expr} {tokens : List Token}
      (signs : op.sign? = some sign) (spelled : Spells operand tokens) :
      Spells (.unary column sign operand) (⟨.operator op, column⟩ :: tokens)
  | binary {column : Nat} {op : Operator} {left right : Expr} {first second : List Token}
      (spelledLeft : Spells left first) (spelledRight : Spells right second) :
      Spells (.binary column op left right) (first ++ ⟨.operator op, column⟩ :: second)
  | input {column opening closing : Nat} :
      Spells (.input column) [⟨.name "input", column⟩, ⟨.leftParen, opening⟩, ⟨.rightParen, closing⟩]
  | prompt {column opening closing : Nat} {text : Expr} {tokens : List Token}
      (spelled : Spells text tokens) :
      Spells (.prompt column text)
        (⟨.name "input", column⟩ :: ⟨.leftParen, opening⟩ :: (tokens ++ [⟨.rightParen, closing⟩]))

/-! ## Literals -/

variable {stop column : Nat} {frames outer : List Frame} {tokens rest : List Token} {expr : Expr}

theorem ofNumeral_eq_ok_iff [CharacterNames] {numeral : Numeral} :
    ofNumeral column numeral = .ok expr ↔
      ∃ value, Denotes (.number numeral) value ∧ expr = .literal column value := by
  unfold ofNumeral
  constructor
  · intro read
    by_cases integer : numeral.isInteger = true
    · by_cases long : Text.digitLimit < numeral.whole.length
      · simp [integer, long] at read
      · simp only [integer, long, if_true, if_false, Except.ok.injEq] at read
        exact ⟨_, .integer integer (Nat.not_lt.mp long), read.symm⟩
    · by_cases finite : (numeral.toBinary64 false).isFinite = true
      · simp only [integer, finite, if_true, Bool.false_eq_true, if_false, Except.ok.injEq] at read
        exact ⟨_, .float (by simpa using integer) finite, read.symm⟩
      · simp [integer, finite] at read
  · rintro ⟨value, denotes, rfl⟩
    cases denotes with
    | integer integer short => simp [integer, Nat.not_lt.mpr short]
    | float broken finite => simp [broken, finite]

theorem ofString_eq_ok_iff [CharacterNames] {mark : Char} {body : List Char} :
    ofString column mark body = .ok expr ↔
      ∃ value, Denotes (.string mark body) value ∧ expr = .literal column value := by
  unfold ofString
  constructor
  · intro read
    split at read
    · next text decoded => exact ⟨_, .string decoded, (Except.ok.inj read).symm⟩
    · cases read
  · rintro ⟨value, denotes, rfl⟩
    cases denotes with
    | string decoded => simp [decoded]

/-! ## What the reader accepts is spelled -/

/-- The tokens that have been read make up these frames, and each of the frames may be
    filled: an operation stands on nothing that binds at least as tightly. -/
inductive Begun [CharacterNames] : List Frame → List Token → Prop
  | nil : Begun [] []
  | signed {column : Nat} {op : Operator} {sign : Sign} {outer : List Frame} {read : List Token}
      (around : Begun outer read) (signs : op.sign? = some sign) :
      Begun (.signed column sign :: outer) (read ++ [⟨.operator op, column⟩])
  | operation {column : Nat} {op : Operator} {left : Expr} {outer : List Frame}
      {read first : List Token} (around : Begun outer read) (spelled : Spells left first)
      (normal : left.Normal) (fits : op.isProduct = true → ¬ left.IsSum)
      (waits : ∀ frame ∈ outer.head?, frame.takes op.isProduct = false) :
      Begun (.operation column op left :: outer) (read ++ (first ++ [⟨.operator op, column⟩]))
  | call {column opening : Nat} {outer : List Frame} {read : List Token}
      (around : Begun outer read) :
      Begun (.call column :: outer) (read ++ [⟨.name "input", column⟩, ⟨.leftParen, opening⟩])

/-- An operand may fill the innermost frame. -/
def Fills (frames : List Frame) (operand : Expr) : Prop :=
  ∀ frame ∈ frames.head?, match frame with
    | .signed _ _ => ¬ operand.IsSum ∧ ¬ operand.IsProduct
    | .operation _ op _ => ¬ operand.IsSum ∧ (op.isProduct = true → ¬ operand.IsProduct)
    | .call _ => True

/-- Frames and an operand that has been completed, by the tokens that make them up. -/
structure Completed [CharacterNames] (frames : List Frame) (operand : Expr) (read : List Token) :
    Prop where
  normal : operand.Normal
  fills : Fills frames operand
  split : ∃ before own, read = before ++ own ∧ Begun frames before ∧ Spells operand own

/-- An operand of no operation may fill any frame. -/
theorem Fills.of_simple (notSum : ¬ expr.IsSum) (notProduct : ¬ expr.IsProduct) :
    Fills frames expr := by
  intro frame _
  cases frame with
  | signed column sign => exact ⟨notSum, notProduct⟩
  | operation column op left => exact ⟨notSum, fun _ => notProduct⟩
  | call column => trivial

/-- A frame that does not take an operand before a product may be filled with a product, and
    one that takes no operand may be filled with anything. -/
theorem Fills.of_waits {op : Operator} {left right : Expr}
    (waits : ∀ frame ∈ outer.head?, frame.takes op.isProduct = false) :
    Fills outer (.binary column op left right) := by
  intro frame first
  have stays := waits frame first
  cases frame with
  | signed column sign => simp [Frame.takes] at stays
  | operation column other held =>
    simp only [Frame.takes, Bool.or_eq_false_iff, Bool.not_eq_false'] at stays
    simp [IsSum, IsProduct, stays.1, stays.2]
  | call column => trivial

theorem Completed.fill [CharacterNames] {frame : Frame} {product : Bool} {operand : Expr}
    {read : List Token} (completed : Completed (frame :: outer) operand read)
    (takes : frame.takes product = true) : Completed outer (frame.fill operand) read := by
  obtain ⟨normal, fills, before, own, rfl, begun, spelled⟩ := completed
  have fits := fills frame rfl
  cases begun with
  | @signed column op sign _ earlier around signs =>
    refine ⟨⟨normal, fits.1, fits.2⟩, Fills.of_simple id id, earlier, _, ?_, around,
      .unary signs spelled⟩
    simp
  | @operation column op left _ earlier first around spelledLeft leftNormal leftFits waits =>
    refine ⟨⟨leftNormal, normal, fits.1, fun isProduct => ⟨leftFits isProduct, fits.2 isProduct⟩⟩,
      Fills.of_waits waits, earlier, _, ?_, around, .binary spelledLeft spelled⟩
    simp
  | call => simp [Frame.takes] at takes

/-- Filling frames keeps what was read, and stops at a frame that waits. -/
theorem Completed.absorb [CharacterNames] {product : Bool} {operand whole : Expr}
    {left : List Frame} {read : List Token} (completed : Completed frames operand read)
    (absorbed : Frame.absorb product frames operand = (left, whole)) :
    Completed left whole read ∧ ∀ frame ∈ left.head?, frame.takes product = false := by
  induction frames generalizing operand with
  | nil =>
    obtain ⟨rfl, rfl⟩ := Prod.mk.inj absorbed
    exact ⟨completed, by simp⟩
  | cons frame outer ih =>
    rw [Frame.absorb] at absorbed
    by_cases takes : frame.takes product = true
    · rw [if_pos takes] at absorbed
      exact ih (completed.fill takes) absorbed
    · rw [if_neg takes] at absorbed
      obtain ⟨rfl, rfl⟩ := Prod.mk.inj absorbed
      exact ⟨completed, by simpa using takes⟩

/-- Before a product no sum is completed. -/
theorem not_isSum_of_absorb {operand whole : Expr} {left : List Frame}
    (simple : ¬ operand.IsSum) (absorbed : Frame.absorb true frames operand = (left, whole)) :
    ¬ whole.IsSum := by
  induction frames generalizing operand with
  | nil =>
    obtain ⟨-, rfl⟩ := Prod.mk.inj absorbed
    exact simple
  | cons frame outer ih =>
    rw [Frame.absorb] at absorbed
    by_cases takes : frame.takes true = true
    · rw [if_pos takes] at absorbed
      refine ih ?_ absorbed
      cases frame with
      | signed column sign => exact id
      | operation column op held => simpa [Frame.fill, IsSum, Frame.takes] using takes
      | call column => simp [Frame.takes] at takes
    · rw [if_neg takes] at absorbed
      obtain ⟨-, rfl⟩ := Prod.mk.inj absorbed
      exact simple

/-- Frames with an operand that has just been completed and is no operation, or with none,
    by the tokens that make them up. -/
def Reading [CharacterNames] (frames : List Frame) (read : List Token) : Option Expr → Prop
  | none => Begun frames read
  | some operand => ¬ operand.IsSum ∧ ¬ operand.IsProduct ∧ Completed frames operand read

theorem reading_some [CharacterNames] {operand : Expr} {before own : List Token}
    (begun : Begun frames before)
    (spelled : Spells operand own) (normal : operand.Normal) (notSum : ¬ operand.IsSum)
    (notProduct : ¬ operand.IsProduct) : Reading frames (before ++ own) (some operand) :=
  ⟨notSum, notProduct, normal, .of_simple notSum notProduct, before, own, rfl, begun, spelled⟩

/-- An operator takes the operand with it that is complete before it. -/
theorem Reading.operation [CharacterNames] {op : Operator} {operand left : Expr} {read : List Token}
    (reading : Reading frames read (some operand))
    (absorbed : Frame.absorb op.isProduct frames operand = (outer, left)) :
    Reading (.operation column op left :: outer) (read ++ [⟨.operator op, column⟩]) none := by
  obtain ⟨notSum, -, completed⟩ := reading
  obtain ⟨⟨normal, -, before, own, rfl, begun, spelledLeft⟩, waits⟩ := completed.absorb absorbed
  have fits : op.isProduct = true → ¬ left.IsSum := by
    intro isProduct
    rw [isProduct] at absorbed
    exact not_isSum_of_absorb notSum absorbed
  rw [List.append_assoc]
  exact Begun.operation begun spelledLeft normal fits waits

/-- A parenthesis ends the call that is begun last, if nothing else waits in it. -/
theorem Completed.close [CharacterNames] {call : Nat} {operand text : Expr} {read : List Token}
    (completed : Completed frames operand read) (closing : Nat)
    (absorbed : Frame.absorb false frames operand = (.call call :: outer, text)) :
    Reading outer (read ++ [⟨.rightParen, closing⟩]) (some (.prompt call text)) := by
  obtain ⟨⟨normal, -, before, own, rfl, begun, spelledText⟩, -⟩ := completed.absorb absorbed
  cases begun with
  | @call _ opening _ earlier around =>
    have spelledCall := @Spells.prompt _ call opening closing _ _ spelledText
    have whole := reading_some around spelledCall normal id id
    simpa using whole

/-- The whole expression, once nothing waits for it. -/
theorem Completed.whole [CharacterNames] {read : List Token} (completed : Completed [] expr read) :
    expr.Normal ∧ Spells expr read := by
  obtain ⟨normal, -, before, own, rfl, begun, spelled⟩ := completed
  cases begun
  exact ⟨normal, spelled⟩

/-- Only a call, or nothing, waits for more than an operand. -/
theorem eq_nil_or_call_of_waits (waits : ∀ frame ∈ frames.head?, frame.takes false = false) :
    frames = [] ∨ ∃ column outer, frames = .call column :: outer := by
  cases frames with
  | nil => exact .inl rfl
  | cons frame outer =>
    have stays := waits frame rfl
    cases frame with
    | signed | operation => simp [Frame.takes] at stays
    | call column => exact .inr ⟨column, outer, rfl⟩

/-- By induction on the recursion of the reader, which keeps the frames and the operand made
    up of the tokens that were read. -/
theorem readOn_sound [CharacterNames] {complete : Option Expr} {read : List Token}
    (reading : Reading frames read complete)
    (returns : readOn stop frames complete tokens = .ok (expr, rest)) :
    expr.Normal ∧ ∃ own, Spells expr own ∧ own ++ rest = read ++ tokens := by
  fun_induction readOn stop frames complete tokens generalizing read with
  | case1 frames op column rest sign signs ih =>
    obtain ⟨normal, own, spelled, whole⟩ := ih (.signed reading signs) returns
    exact ⟨normal, own, spelled, by simpa using whole⟩
  | case3 frames numeral column rest operand found ih =>
    obtain ⟨value, denotes, rfl⟩ := ofNumeral_eq_ok_iff.mp found
    obtain ⟨normal, own, spelled, whole⟩ :=
      ih (reading_some reading (.literal denotes) trivial id id) returns
    exact ⟨normal, own, spelled, by simpa using whole⟩
  | case5 frames mark body column rest operand found ih =>
    obtain ⟨value, denotes, rfl⟩ := ofString_eq_ok_iff.mp found
    obtain ⟨normal, own, spelled, whole⟩ :=
      ih (reading_some reading (.literal denotes) trivial id id) returns
    exact ⟨normal, own, spelled, by simpa using whole⟩
  | case7 frames column opening closing rest ih =>
    obtain ⟨normal, own, spelled, whole⟩ :=
      ih (reading_some reading .input trivial id id) returns
    exact ⟨normal, own, spelled, by simpa using whole⟩
  | case9 frames column opening rest _ ih =>
    obtain ⟨normal, own, spelled, whole⟩ := ih (.call reading) returns
    exact ⟨normal, own, spelled, by simpa using whole⟩
  | case11 frames text column rest _ _ ih =>
    obtain ⟨normal, own, spelled, whole⟩ :=
      ih (reading_some reading .name trivial id id) returns
    exact ⟨normal, own, spelled, by simpa using whole⟩
  | case14 frames operand op column rest outer left absorbed ih =>
    obtain ⟨normal, all, spelled, whole⟩ := ih (reading.operation absorbed) returns
    exact ⟨normal, all, spelled, by simpa using whole⟩
  | case15 frames operand closing rest column outer text absorbed ih =>
    obtain ⟨normal, all, spelled, whole⟩ := ih (reading.2.2.close _ absorbed) returns
    exact ⟨normal, all, spelled, by simpa using whole⟩
  | case16 frames operand closing rest left whole open' absorbed =>
    obtain ⟨-, -, completed⟩ := reading
    obtain ⟨completed, waits⟩ := completed.absorb absorbed
    obtain ⟨rfl, rfl⟩ := Prod.mk.inj (Except.ok.inj returns)
    rcases eq_nil_or_call_of_waits waits with rfl | ⟨column, outer, rfl⟩
    · exact ⟨completed.whole.1, _, completed.whole.2, rfl⟩
    · exact (open' column outer rfl).elim
  | case17 tokens frames operand whole absorbed =>
    obtain ⟨-, -, completed⟩ := reading
    obtain ⟨completed, -⟩ := completed.absorb absorbed
    obtain ⟨rfl, rfl⟩ := Prod.mk.inj (Except.ok.inj returns)
    exact ⟨completed.whole.1, _, completed.whole.2, rfl⟩
  | case2 | case4 | case6 | case8 | case10 | case12 | case13 | case18 => cases returns

/-! ## What is spelled is accepted -/

/-- The frames that wait when the tokens of a tree have been read up to its last operand,
    the innermost first. -/
def pending : Expr → List Frame
  | unary column sign operand => operand.pending ++ [.signed column sign]
  | binary column op left right => right.pending ++ [.operation column op left]
  | _ => []

/-- The last operand of a tree. -/
def lastOperand : Expr → Expr
  | unary _ _ operand => operand.lastOperand
  | binary _ _ _ right => right.lastOperand
  | operand => operand

/-- The frames that a tree has begun are filled again with its last operand, before a
    product only those of a tree that is no sum. -/
theorem absorb_pending {product : Bool} (normal : expr.Normal)
    (fits : product = true → ¬ expr.IsSum) :
    Frame.absorb product (expr.pending ++ outer) expr.lastOperand =
      Frame.absorb product outer expr := by
  induction expr generalizing outer with
  | literal | name | input | prompt => rfl
  | unary column sign operand ih =>
    obtain ⟨operandNormal, notSum, -⟩ := normal
    rw [pending, lastOperand, List.append_assoc, ih operandNormal fun _ => notSum]
    rfl
  | binary column op left right ihLeft ihRight =>
    obtain ⟨-, rightNormal, notSum, -⟩ := normal
    rw [pending, lastOperand, List.append_assoc, ihRight rightNormal fun _ => notSum,
      List.cons_append, List.nil_append, Frame.absorb, if_pos]
    · rfl
    · cases product with
      | false => simp [Frame.takes]
      | true => simpa [Frame.takes, IsSum] using fits rfl

/-- A tree may be read after frames that keep waiting for it: a sum only where nothing but
    the end of a call is due, a product also as an operand of a sum. -/
def Awaits (frames : List Frame) (expr : Expr) : Prop :=
  ∀ frame ∈ frames.head?, (expr.IsSum → frame.takes false = false) ∧
    (expr.IsProduct → frame.takes true = false)

/-- What waits for a sum waits for a product as well. -/
theorem not_takes_product {frame : Frame} {product : Bool}
    (waits : frame.takes product = false) : frame.takes true = false := by
  cases product with
  | true => exact waits
  | false => cases frame <;> simp_all [Frame.takes]

/-- The frames around an operation keep waiting before its operator. -/
theorem Awaits.waits {op : Operator} {left right : Expr}
    (awaits : Awaits frames (.binary column op left right)) :
    ∀ frame ∈ frames.head?, frame.takes op.isProduct = false := by
  intro frame first
  obtain ⟨beforeSum, beforeProduct⟩ := awaits frame first
  cases kind : op.isProduct with
  | true => exact beforeProduct kind
  | false => exact beforeSum kind

/-- Frames that wait take nothing. -/
theorem absorb_of_waits {product : Bool}
    (waits : ∀ frame ∈ frames.head?, frame.takes product = false) :
    Frame.absorb product frames expr = (frames, expr) := by
  cases frames with
  | nil => rfl
  | cons frame outer => rw [Frame.absorb, if_neg (by simp [waits frame rfl])]

theorem Spells.first [CharacterNames] (spelled : Spells expr tokens) :
    ∃ first rest, tokens = first :: rest ∧ first.symbol ≠ .rightParen := by
  induction spelled with
  | literal denotes =>
    refine ⟨_, _, rfl, ?_⟩
    cases denotes <;> simp
  | name | unary | input | prompt => exact ⟨_, _, rfl, by simp⟩
  | binary _ _ ih _ =>
    obtain ⟨first, rest, rfl, notParen⟩ := ih
    exact ⟨first, _, rfl, notParen⟩

/-- A literal is read where an operand is due. -/
theorem readOn_literal [CharacterNames] {symbol : Symbol} {value : Value}
    (denotes : Denotes symbol value) : readOn stop frames none (⟨symbol, column⟩ :: rest) =
      readOn stop frames (some (.literal column value)) rest := by
  cases denotes with
  | integer integer short =>
    rw [readOn, ofNumeral_eq_ok_iff.mpr ⟨_, .integer integer short, rfl⟩]
  | float broken finite =>
    rw [readOn, ofNumeral_eq_ok_iff.mpr ⟨_, .float broken finite, rfl⟩]
  | string decoded =>
    rw [readOn, ofString_eq_ok_iff.mpr ⟨_, .string decoded, rfl⟩]

/-- A name that no parenthesis follows is read where an operand is due. -/
theorem readOn_name [CharacterNames] {text : String}
    (follows : ∀ next ∈ rest.head?, next.symbol ≠ .leftParen) :
    readOn stop frames none (⟨.name text, column⟩ :: rest) =
      readOn stop frames (some (.name column text)) rest := by
  rw [readOn]
  · rintro opening closing others rfl
    exact follows _ rfl rfl
  · rintro opening others rfl
    exact follows _ rfl rfl

/-- A call begins where its parenthesis is not closed at once. -/
theorem readOn_call [CharacterNames] {opening : Nat}
    (follows : ∀ next ∈ rest.head?, next.symbol ≠ .rightParen) :
    readOn stop frames none (⟨.name "input", column⟩ :: ⟨.leftParen, opening⟩ :: rest) =
      readOn stop (.call column :: frames) none rest := by
  rw [readOn]
  · exact if_pos rfl
  · rintro closing others rfl
    exact follows _ rfl rfl

/-- The reader comes to the last operand of a normal tree, with the frames of the tree begun.
    By induction on the tree, along its tokens. -/
theorem readOn_spelled [CharacterNames] (spelled : Spells expr tokens) (normal : expr.Normal)
    (awaits : Awaits frames expr) (follows : ∀ next ∈ rest.head?, next.symbol ≠ .leftParen) :
    readOn stop frames none (tokens ++ rest) =
      readOn stop (expr.pending ++ frames) (some expr.lastOperand) rest := by
  induction spelled generalizing frames rest with
  | literal denotes => exact readOn_literal denotes
  | name => exact readOn_name follows
  | @unary column op sign operand tokens signs _ ih =>
    obtain ⟨operandNormal, notSum, notProduct⟩ := normal
    rw [List.cons_append, readOn, signs]
    simp only
    rw [ih operandNormal _ follows, pending, lastOperand, List.append_assoc]
    · rfl
    · intro frame _
      exact ⟨fun isSum => absurd isSum notSum, fun isProduct => absurd isProduct notProduct⟩
  | @binary column op left right first second _ _ ihLeft ihRight =>
    obtain ⟨leftNormal, rightNormal, rightNotSum, tight⟩ := normal
    have waits := awaits.waits
    have awaitsLeft : Awaits frames left := by
      refine fun frame first => ⟨fun isSum => ?_, fun _ => not_takes_product (waits frame first)⟩
      have isSumOp : op.isProduct = false :=
        Bool.eq_false_iff.mpr fun isProductOp => (tight isProductOp).1 isSum
      exact isSumOp ▸ waits frame first
    have awaitsRight : Awaits (.operation column op left :: frames) right := by
      rintro frame ⟨⟩
      refine ⟨fun isSum => absurd isSum rightNotSum, fun isProduct => ?_⟩
      have isSumOp : op.isProduct = false :=
        Bool.eq_false_iff.mpr fun isProductOp => (tight isProductOp).2 isProduct
      simp [Frame.takes, isSumOp]
    rw [List.append_assoc, List.cons_append, ihLeft leftNormal awaitsLeft (by simp), readOn,
      absorb_pending leftNormal fun isProduct => (tight isProduct).1, absorb_of_waits waits]
    simp only
    rw [ihRight rightNormal awaitsRight follows, pending, lastOperand, List.append_assoc]
    rfl
  | @input column opening closing =>
    rw [List.cons_append, List.cons_append, List.cons_append, readOn]
    exact if_pos rfl
  | @prompt column opening closing text tokens spelledText ih =>
    have textNormal : text.Normal := normal
    have awaitsText : Awaits (.call column :: frames) text := by
      rintro frame ⟨⟩
      exact ⟨fun _ => rfl, fun _ => rfl⟩
    obtain ⟨first, others, rfl, notParen⟩ := spelledText.first
    rw [List.cons_append, List.cons_append, List.append_assoc, List.cons_append,
      readOn_call (by simpa using notParen), ← List.cons_append, ih textNormal awaitsText (by simp),
      List.cons_append, List.nil_append, readOn, absorb_pending textNormal (by simp)]
    rfl

/-- A normal tree is read from the tokens that spell it. -/
theorem read_spelled [CharacterNames] (spelled : Spells expr tokens) (normal : expr.Normal) :
    read stop tokens = .ok (expr, []) := by
  have reads : readOn stop [] none (tokens ++ []) =
      readOn stop (expr.pending ++ []) (some expr.lastOperand) [] :=
    readOn_spelled spelled normal (by simp [Awaits]) (by simp)
  simp only [List.append_nil] at reads
  have filled : Frame.absorb false (expr.pending ++ []) expr.lastOperand = ([], expr) :=
    absorb_pending normal (by simp)
  rw [List.append_nil] at filled
  rw [read, reads, readOn]
  · rw [filled]
  · simp
  · simp

/-! ## Texts -/

theorem expectEnd_eq_ok : expectEnd stop rest = .ok () ↔ rest = [] := by
  cases rest <;> simp [expectEnd]

/-- The tree that a text reads as is normal, and the tokens of the text spell it. -/
theorem spelled_of_parse [CharacterNames] {text : List Char} (parsed : parse text = .ok expr) :
    expr.Normal ∧ ∃ tokens, Tokens.ofLine text = .ok tokens ∧ Spells expr tokens.list := by
  simp only [parse, Run.bind_eq_ok, Run.mapError_eq_ok, pure, Except.pure, Except.ok.injEq] at parsed
  obtain ⟨tokens, scanned, ⟨found, rest⟩, returns, ⟨⟩, ended, rfl⟩ := parsed
  obtain rfl := expectEnd_eq_ok.mp ended
  have reading : Reading [] [] none := Begun.nil
  obtain ⟨normal, own, spelled, whole⟩ := readOn_sound reading returns
  have all : own = tokens.list := by simpa using whole
  exact ⟨normal, tokens, scanned, all ▸ spelled⟩

/-- A text reads as a tree exactly where the tree is normal and the tokens of the text spell
    it, so it reads as one tree at most. -/
theorem parse_eq_ok_iff [CharacterNames] {text : List Char} :
    parse text = .ok expr ↔
      expr.Normal ∧ ∃ tokens, Tokens.ofLine text = .ok tokens ∧ Spells expr tokens.list := by
  refine ⟨spelled_of_parse, ?_⟩
  rintro ⟨normal, tokens, scanned, spelled⟩
  simp only [parse, Run.bind_eq_ok, Run.mapError_eq_ok, pure, Except.pure, Except.ok.injEq]
  exact ⟨tokens, scanned, (expr, []), read_spelled spelled normal, (), rfl, rfl⟩

end Expr

end StepTrace
