import CppMMO.Game.Services.AuthService

/-! What `OnRead` accepts: the success flag of the response decides alone, and the identity that
comes with it is not asked for. -/

set_option autoImplicit false

namespace CppMMO.Game.Services.HttpRequestSession

open CppMMO.Lib CppMMO.Auth CppMMO.Protocol

variable {codec : Codec}

theorem success_readVerdict_iff {json : Json} :
    (readVerdict json).success = true ↔
      ∃ fields, json = .object fields ∧ json.field? "success" = some (.bool true) := by
  cases json with
  | object fields =>
      cases found : (Json.object fields).field? "success" with
      | none => simp [readVerdict, found]
      | some value =>
          cases value with
          | bool flag => cases flag <;> simp [readVerdict, found, Json.asBool?]
          | _ => simp [readVerdict, found, Json.asBool?]
  | _ => simp [readVerdict, Json.field?]

theorem success_onRead_iff {response : HttpResponse} :
    (onRead codec response).success = true ↔
      response.statusCode = 200 ∧ ∃ fields, codec.parse response.body = .ok (.object fields) ∧
        (Json.object fields).field? "success" = some (.bool true) := by
  unfold onRead
  split
  · next isOk =>
      cases parsed : codec.parse response.body with
      | error what => simp
      | ok json =>
          simp only [success_readVerdict_iff, isOk, true_and, Except.ok.injEq]
          constructor
          · rintro ⟨fields, rfl, flag⟩
            exact ⟨fields, rfl, flag⟩
          · rintro ⟨fields, rfl, flag⟩
            exact ⟨fields, rfl, flag⟩
  · next isError => simp [isError]

theorem onRead_of_statusCode_ne {response : HttpResponse} (isError : response.statusCode ≠ 200) :
    (onRead codec response).success = false := by
  rw [← Bool.not_eq_true, success_onRead_iff]
  exact fun granted => isError granted.1

/-- The object has a `playerInfo` object whose `playerId` is the given number. -/
def NamesPlayer (fields : List (String × Json)) (playerId : PlayerId) : Prop :=
  ∃ info, (Json.object fields).field? "playerInfo" = some (.object info) ∧
    (Json.object info).field? "playerId" = some (.integer playerId.toNat)

/-- A response that lets the player log in. -/
def Grants (codec : Codec) (playerId : PlayerId) (response : HttpResponse) : Prop :=
  response.statusCode = 200 ∧ ∃ fields, codec.parse response.body = .ok (.object fields) ∧
    (Json.object fields).field? "success" = some (.bool true) ∧ NamesPlayer fields playerId

theorem onRead_fails_closed_iff (playerId : PlayerId) (response : HttpResponse) :
    ((onRead codec response).success = true → Grants codec playerId response) ↔
      (response.statusCode = 200 → ∀ fields, codec.parse response.body = .ok (.object fields) →
        (Json.object fields).field? "success" = some (.bool true) → NamesPlayer fields playerId) := by
  rw [success_onRead_iff]
  constructor
  · intro closed isOk fields parsed flag
    obtain ⟨-, others, parsedSo, -, names⟩ := closed ⟨isOk, fields, parsed, flag⟩
    cases parsed.symm.trans parsedSo
    exact names
  · rintro names ⟨isOk, fields, parsed, flag⟩
    exact ⟨isOk, fields, parsed, flag, names isOk fields parsed flag⟩

/-- A parser on the one text `{"success":true}`. -/
def bareCodec : Codec where
  dump _ := []
  parse body :=
    if body = "\x7b\"success\":true\x7d".toUTF8.toList then .ok (.object [("success", .bool true)])
    else .error "[json.exception.parse_error.101]"
  serialize _ := []
  deserialize _ := none
  problemDetails _ := []

/-- No identity at all is accepted, as player 0. -/
theorem onRead_accepts_no_identity :
    onRead bareCodec { body := "\x7b\"success\":true\x7d".toUTF8.toList } =
        { success := true, playerId := 0 } ∧
      ¬ Grants bareCodec 7 { body := "\x7b\"success\":true\x7d".toUTF8.toList } := by
  constructor
  · simp [onRead, bareCodec, readVerdict, Json.asBool?, Json.field?]
  · rintro ⟨-, fields, parsed, -, info, named, -⟩
    simp only [bareCodec, if_true, Except.ok.injEq, Json.object.injEq] at parsed
    rw [← parsed] at named
    simp [Json.field?] at named

end CppMMO.Game.Services.HttpRequestSession
