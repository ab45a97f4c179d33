import AutoSync.SyncManager

/-!
# The chat example

The one application in the repository: a manager of a single type of objects, the messages, which
have an identifier, an author and a text.  Every concrete run in this development is a run of the
chat, with JSON itself for the values.
-/

set_option autoImplicit false

namespace AutoSync

section

variable (Val : Type) [Json Val]

/-- A field of type `int`, with the conversions the library has for it. -/
def FieldType.int : FieldType Val where
  Carrier := ℤ
  default := 0
  toVal := Json.ofInt
  as? := Json.int?
  as_toVal := Json.int?_ofInt

/-- A field of type `std::string`, which starts empty. -/
def FieldType.string : FieldType Val where
  Carrier := String
  default := ""
  toVal := Json.ofStr
  as? := Json.str?
  as_toVal := Json.str?_ofStr

/-- A chat message: its identifier, author and contents, in this order. -/
def Message : ObjType Val where
  fieldCount := 3
  TypeAt := fun
    | 0 => FieldType.int Val
    | 1 => FieldType.string Val
    | 2 => FieldType.string Val

variable {Val}

/-! The positions of the fields, under the names of their proxies. -/

def Message.messageID : Fin (Message Val).fieldCount := (0 : Fin 3)
def Message.author : Fin (Message Val).fieldCount := (1 : Fin 3)
def Message.contents : Fin (Message Val).fieldCount := (2 : Fin 3)

end

namespace Chat

/-- The types of the chat's manager, of which there is one. -/
def types : Fin 1 → ObjType JsonTree := fun _ ↦ Message JsonTree

/-- The messages: the only type of the chat's manager. -/
abbrev messages : Fin 1 := 0

/-- The JSON object `serverCreate` is given for a message, with an entry for each of its fields. -/
def messageVal (messageID : ℤ) (author contents : String) : JsonTree :=
  Json.ofObj (((∅ : Obj JsonTree).insert "0" (.int messageID)).insert "1" (.str author)
    |>.insert "2" (.str contents))

/-- The message `messageVal` describes, with no flag raised. -/
def message (messageID : ℤ) (author contents : String) : SyncObj (Message JsonTree) :=
  ((SyncObj.fresh (Message JsonTree)).setFieldAt Message.messageID messageID
    |>.setFieldAt Message.author author).setFieldAt Message.contents contents

theorem run_setFromJson_messageVal (messageID : ℤ) (author contents : String) :
    (SerializationHelper.setFromJson (messageVal messageID author contents)).run
      (SyncObj.fresh (Message JsonTree)) = .ok () (message messageID author contents) := by
  -- the entry of each field
  have hentry : ∀ i : Fin (Message JsonTree).fieldCount,
      (((∅ : Obj JsonTree).insert "0" (.int messageID)).insert "1" (.str author)
        |>.insert "2" (.str contents))[fieldKey i]? = some (((Message JsonTree).TypeAt i).toVal
          ((message messageID author contents).fields i)) := by
    have h0 : fieldKey (0 : Fin 3) = "0" := rfl
    have h1 : fieldKey (1 : Fin 3) = "1" := rfl
    have h2 : fieldKey (2 : Fin 3) = "2" := rfl
    rintro ⟨_ | _ | _ | i, hi⟩
    · show (_ : Obj JsonTree)[fieldKey (0 : Fin 3)]? = _
      rw [h0]
      simp only [OrdMap.lookup_insert, String.reduceEq, if_true, if_false]
      rfl
    · show (_ : Obj JsonTree)[fieldKey (1 : Fin 3)]? = _
      rw [h1]
      simp only [OrdMap.lookup_insert, String.reduceEq, if_true, if_false]
      rfl
    · show (_ : Obj JsonTree)[fieldKey (2 : Fin 3)]? = _
      rw [h2]
      simp only [OrdMap.lookup_insert, if_true]
      rfl
    · exact absurd hi (Nat.not_lt.2 (Nat.le_add_left 3 i))
  have hdec : SerializationHelper.Decodes (Message JsonTree)
      (((∅ : Obj JsonTree).insert "0" (.int messageID)).insert "1" (.str author)
        |>.insert "2" (.str contents)) := by
    intro i v hv
    rw [hentry, Option.some_inj] at hv
    rw [← hv, FieldType.as_toVal]
    rfl
  rw [messageVal, SerializationHelper.run_setFromJson hdec]
  refine congrArg (EStateM.Result.ok ()) (SyncObj.ext (funext fun i ↦ ?_) (funext fun i ↦ ?_))
  · simp [SerializationHelper.patch, hentry]
  · simp [SerializationHelper.patch, hentry, message, SyncObj.setFieldAt, SyncObj.fresh]

theorem fieldCount_le (t : Fin 1) : (types t).fieldCount ≤ maxObjs := by
  show 3 ≤ 100
  decide

end Chat

end AutoSync
