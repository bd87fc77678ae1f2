import PageMerge.Proofs.Wiki.Requests

/-!
# Replies to calls that write a page

A call that writes a page does not need what the answer says, but it reads the answer as every other
call does. So it succeeds exactly if the server accepted the page and the body of the answer is
blank or a JSON document, and a row whose page was accepted with any other body asks for another
run.

## Main definitions

* `Readable`: a body that is blank or a JSON document

## Main results

* `readReply_isOk_iff`: the answers that are read
* `write_succeeds_iff`: calls and rows that write a page, by the answer
* `accepted_write_fails`: a page that was accepted with a text
-/

namespace PageMerge.Wiki.ConfluenceApi

open PageMerge.Http (Reply Request Transport Url isSuccess)
open PageMerge.Text (Bytes)
open PageMerge.Upload (Plan publish uploadArticle)

/-- A body that can be read: nothing but blanks, or a JSON document. -/
def Readable (bytes : Bytes) : Prop :=
  let body := Text.Utf8.decodeLenient bytes
  (Text.trim body).isEmpty = true ∨ ∃ value, Json.readString body = .ok value

/-- An answer is read if its status is one of success and its body can be read. -/
theorem readReply_isOk_iff (text : String) (url : Url) (status : Nat) (bytes : Bytes) :
    (readReply text url (.answer status bytes)).isOk = true ↔
      isSuccess status = true ∧ Readable bytes := by
  rw [readReply, Readable]
  cases isSuccess status with
  | false => exact iff_of_false Bool.false_ne_true fun h => Bool.false_ne_true h.1
  | true =>
    cases (Text.trim (Text.Utf8.decodeLenient bytes)).isEmpty with
    | true => exact iff_of_true rfl ⟨rfl, .inl rfl⟩
    | false =>
      cases Json.readString (Text.Utf8.decodeLenient bytes) with
      | error fault =>
        refine iff_of_false Bool.false_ne_true ?_
        rintro ⟨-, hblank | ⟨value, hvalue⟩⟩
        · cases hblank
        · cases hvalue
      | ok value => exact iff_of_true rfl ⟨rfl, .inr ⟨value, rfl⟩⟩

/-- A call that writes a page sends one request, unless the program stops because there is no next
version. If the request is answered, the call succeeds, and its row asks for no other run, exactly
if the status is one of success and the body can be read. -/
theorem write_succeeds_iff {σ : Type} {client : ConfluenceApi} {transport : Transport σ}
    {article : Article} {plan : Plan} {found : Option PageVersion} {s after : σ}
    {request : Request} {status : Nat} {bytes : Bytes}
    (hplan : found.isSome = true → plan.overwriteExisting = true)
    (hrequest : client.writeRequest? article plan found = some request)
    (hreply : transport request s = (.answer status bytes, after)) :
    let called := (client.writeCall transport article plan found).run s
    let row := (publish (client.client transport) article plan found).run s
    called.state = after ∧ row.state = after ∧ row.value = writtenOutcome found called.value ∧
      (called.value.isOk = true ↔ isSuccess status = true ∧ Readable bytes) ∧
      (row.value.needsRetry = false ↔ isSuccess status = true ∧ Readable bytes) ∧
      ((client.writeCall transport article plan found).stop? s = none ↔ HasNextVersion found) ∧
      ((publish (client.client transport) article plan found).stop? s = none ↔
        HasNextVersion found) := by
  obtain ⟨hstate, hvalue⟩ := run_publish client transport article plan found s hplan
  have hisOk : ∀ answer : Except CallError Json.Value,
      (answer.map fun _ => ()).isOk = answer.isOk := by
    rintro (_ | _) <;> rfl
  dsimp only
  rw [hstate, hvalue, needsRetry_writtenOutcome, run_writeCall client transport article plan s
    hrequest, hreply, stop?_writeCall, stop?_publish client transport article plan found s hplan]
  dsimp only
  rw [hisOk, ← readReply_isOk_iff (client.writeUrl found) request.url]
  simp

/-- A page that is created without any word about it is no failure. -/
theorem write_succeeds_iff_blank :
    let transport : Transport Unit := fun _ sent => (.answer 204 [], sent)
    let plan : Plan := ⟨"DOCS", some "7", false, 1⟩
    let row := (publish (sampleApi.client transport) sampleArticle plan none).run ()
    row.value.needsRetry = false := by
  intro transport plan row
  have htarget : (Url.target? sampleApi.baseUrl).isSome = true := by decide +kernel
  obtain ⟨url, hurl⟩ := Option.isSome_iff_exists.mp htarget
  obtain ⟨request, hrequest⟩ :
      ∃ request, sampleApi.writeRequest? sampleArticle plan none = some request := by
    rw [writeRequest?, writeUrl, hurl]
    exact ⟨_, rfl⟩
  have hreply : transport request () = (.answer 204 [], ()) := rfl
  obtain ⟨-, -, -, -, hretry, -⟩ := write_succeeds_iff (by decide) hrequest hreply
  exact hretry.mpr ⟨rfl, .inl (by decide +kernel)⟩

/-- A page that is created with a word about it that is no JSON document counts as not created: the
row asks for another run. -/
theorem accepted_write_fails :
    let transport : Transport (List Http.Method) := fun request sent =>
      (if request.method = .get then .answer 200 (Text.Utf8.encode "\x7b\"size\":0\x7d")
        else .answer 200 (Text.Utf8.encode "OK"), sent ++ [request.method])
    let created := (sampleApi.create transport sampleArticle "DOCS" none).run []
    let plan : Plan := ⟨"DOCS", none, false, 1⟩
    let row := (uploadArticle (sampleApi.client transport) sampleArticle plan).run []
    isSuccess 200 = true ∧ created.state = [.post] ∧ created.value.isOk = false ∧
      row.state = [.get, .post] ∧ row.value = .failed .create
        ("Unexpected response from 'http://wiki.test/rest/api/content/': " ++
          "expected value at line 1 column 1") ∧ row.value.needsRetry = true := by
  decide +kernel

end PageMerge.Wiki.ConfluenceApi
