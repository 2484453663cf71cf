import SnippetReview.Chat.Request
import SnippetReview.Proofs.Json.Bytes

namespace SnippetReview

open Json Enrichment

namespace Chat

def Turn.IsValue (t : Turn) (value : Json) : Prop :=
  ∃ role content, value.members? = some [("role".toList, role), ("content".toList, content)] ∧
    role.text? = some t.role ∧ content.text? = some t.content

theorem isNamed_turn : AreNames ["role", "content"] := by
  decide

theorem Turn.isValue_toJson (t : Turn) : t.IsValue t.toJson :=
  ⟨_, _, members?_ofMembers rfl isNamed_turn, text?_ofText _, text?_ofText _⟩

theorem Turn.isWritten_toJson (t : Turn) : IsWritten t.toJson := by
  refine isWritten_ofMembers rfl isNamed_turn ?_
  simp only [List.forall_mem_cons]
  exact ⟨isWritten_ofText _, isWritten_ofText _, List.forall_mem_nil _⟩

theorem Turn.IsValue.unique {s t : Turn} {value : Json} (hs : s.IsValue value)
    (ht : t.IsValue value) : s = t := by
  obtain ⟨role, content, hm, hrole, hcontent⟩ := hs
  obtain ⟨role', content', hm', hrole', hcontent'⟩ := ht
  rw [hm] at hm'
  cases hm'
  rw [hrole] at hrole'
  rw [hcontent] at hcontent'
  cases s
  cases t
  cases hrole'
  cases hcontent'
  rfl

theorem systemPrompt_injective {language other : Text}
    (h : systemPrompt language = systemPrompt other) : language = other :=
  List.append_cancel_left (List.append_cancel_right h)

/-- The text is an object with four fields: the model, two turns, the first of them the system's and
the second the user's, no freedom of choice, and the form of the answer. -/
def IsBody (written model : Text) (system user : Turn) : Prop :=
  ∃ value name messages temperature format first second kind,
    readBytes? (Utf8.encode written) = some value ∧
    value.members? = some [("model".toList, name), ("messages".toList, messages),
      ("temperature".toList, temperature), ("response_format".toList, format)] ∧
    name.text? = some model ∧
    messages.items? = some [first, second] ∧ system.IsValue first ∧ user.IsValue second ∧
    temperature = .number "0.0".toList ∧
    format.members? = some [("type".toList, kind)] ∧ kind.text? = some "json_object".toList

theorem isNamed_body : AreNames ["model", "messages", "temperature", "response_format"] := by
  decide

theorem isNamed_format : AreNames ["type"] := by
  decide

theorem isWritten_body (model : Text) (q : Question) : IsWritten (body model q) := by
  have hformat : IsWritten (ofMembers [("type", ofText "json_object".toList)]) :=
    isWritten_ofMembers rfl isNamed_format (List.forall_mem_singleton.mpr (isWritten_ofText _))
  have hturns : IsWritten (.array ((turns q).map Turn.toJson)) := by
    apply IsWritten.array
    intro _ hm
    obtain ⟨t, -, rfl⟩ := List.mem_map.mp hm
    exact t.isWritten_toJson
  refine isWritten_ofMembers rfl isNamed_body ?_
  simp only [List.forall_mem_cons]
  exact ⟨isWritten_ofText _, hturns, .number (by decide) (by decide), hformat,
    List.forall_mem_nil _⟩

theorem isBody_body (model : Text) (q : Question) :
    IsBody (body model q).write model ⟨"system".toList, systemPrompt q.language⟩
      ⟨"user".toList, q.code⟩ :=
  ⟨body model q, _, _, _, _, _, _, _, readBytes?_write (isWritten_body model q),
    members?_ofMembers rfl isNamed_body, text?_ofText _, rfl, Turn.isValue_toJson _,
    Turn.isValue_toJson _, rfl, members?_ofMembers rfl isNamed_format, text?_ofText _⟩

theorem IsBody.unique {written model model' : Text} {system system' user user' : Turn}
    (h : IsBody written model system user) (h' : IsBody written model' system' user') :
    model' = model ∧ system' = system ∧ user' = user := by
  obtain ⟨value, name, messages, _, _, first, second, _, hr, hm, hn, hi, hs, hu, -⟩ := h
  obtain ⟨value', name', messages', _, _, first', second', _, hr', hm', hn', hi', hs', hu', -⟩ := h'
  rw [hr] at hr'
  cases hr'
  rw [hm] at hm'
  cases hm'
  rw [hi] at hi'
  cases hi'
  rw [hn] at hn'
  exact ⟨(Option.some.inj hn').symm, hs'.unique hs, hu'.unique hu⟩

/-- The body of a request says of the model, the prompt for the language and the snippet what they
are, character for character, and it can be read in no other way. Bodies that are the same ask the
same of the same model. -/
theorem bodies_read_back (model : Text) (q : Question) :
    (∀ (s : Service) request, s.model = model → s.request? q = some request →
      request.body = (body model q).write) ∧
    (∀ name system user, IsBody (body model q).write name system user ↔
      name = model ∧ system = ⟨"system".toList, systemPrompt q.language⟩ ∧
        user = ⟨"user".toList, q.code⟩) ∧
    ∀ model' q', (body model' q').write = (body model q).write → model' = model ∧ q' = q := by
  refine ⟨?_, fun name system user => ⟨(isBody_body model q).unique, ?_⟩, fun model' q' h => ?_⟩
  · rintro s request rfl hr
    simp only [Service.request?, Option.bind_eq_bind, Option.bind_eq_some_iff] at hr
    obtain ⟨url, -, hr⟩ := hr
    split at hr
    · cases hr
    · cases hr
      rfl
  · rintro ⟨rfl, rfl, rfl⟩
    exact isBody_body name q
  · have hb := isBody_body model' q'
    rw [h] at hb
    obtain ⟨hmodel, hsystem, huser⟩ := (isBody_body model q).unique hb
    have hlanguage : q'.language = q.language :=
      systemPrompt_injective (congrArg Turn.content hsystem)
    have hcode : q'.code = q.code := congrArg Turn.content huser
    cases q
    cases q'
    exact ⟨hmodel, congrArg₂ Question.mk hlanguage hcode⟩

theorem bodies_read_back_escaped :
    let q : Question := ⟨"c\",\"role\":\"user".toList, ['\x7b', '"', '\\', '\n', '😀', '\x00']⟩
    let s : Service := ⟨"http://a".toList, "k".toList, "m\\".toList⟩
    ∃ request, s.request? q = some request ∧
      IsBody request.body "m\\".toList ⟨"system".toList, systemPrompt q.language⟩
        ⟨"user".toList, q.code⟩ := by
  intro q s
  have hr : (s.request? q).isSome = true := by decide +kernel
  obtain ⟨request, hr⟩ := Option.isSome_iff_exists.mp hr
  obtain ⟨hsent, hbody, -⟩ := bodies_read_back "m\\".toList q
  refine ⟨request, hr, ?_⟩
  rw [hsent s request rfl hr]
  exact (hbody _ _ _).mpr ⟨rfl, rfl, rfl⟩

end Chat

end SnippetReview
