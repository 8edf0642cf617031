import RosMiddleware.Demangler

/-!
Names of topics, written and read. A name shows in its mark what the topic carries, so it is
read as the topic of a message, of a request or of a reply, but never as two of them. The
name of a service is written with or without a low line before the ending, and both are read
as the same service; a service without a name is none.
-/
namespace RosMiddleware

namespace TopicName

/-- No other mark can be read off a name. -/
theorem unmarked?_of_ne {c d : Channel} (apart : c ≠ d) (rest : String) :
    unmarked? c.mark (d.mark ++ "/" ++ rest) = none := by
  refine Option.eq_none_iff_forall_ne_some.mpr fun other found => ?_
  have chars := congrArg (fun s => s.toList[1]?) (unmarked?_eq_some_iff.mp found)
  cases c <;> cases d <;> first | exact absurd rfl apart | simp [Channel.mark] at chars

theorem build_of_conventional {q : Qos.Profile} (conventional : q.rawNames = false)
    (mark topic ending : String) :
    build q mark topic ending = mark ++ "/" ++ (withoutSlash topic ++ ending) := by
  rw [build, conventional, if_neg (by decide)]
  exact String.append_assoc

/-- A ROS name and its body, which is the name without one slash at its front. -/
inductive Body : String → String → Prop
  | slashed (body : String) : Body ("/" ++ body) body
  | bare {body : String} (bare : ¬ "/".toList <+: body.toList) : Body body body

/-- Of several slashes at the front one goes. -/
theorem withoutSlash_eq_iff {topic body : String} :
    withoutSlash topic = body ↔ Body topic body := by
  constructor
  · rintro rfl
    cases stripped : Text.stripFront? "/" topic with
    | some rest =>
        obtain rfl := Text.stripFront?_eq_some_iff.mp stripped
        rw [withoutSlash, stripped]
        exact .slashed rest
    | none =>
        rw [withoutSlash, stripped]
        exact .bare (Text.stripFront?_eq_none_iff.mp stripped)
  · intro bodied
    cases bodied with
    | slashed => rw [withoutSlash, Text.stripFront?_eq_some_iff.mpr rfl, Option.getD_some]
    | bare bare => rw [withoutSlash, Text.stripFront?_eq_none_iff.mpr bare, Option.getD_none]

/-- One low line at the end belongs to the ending. -/
def withoutLowLine (stem : String) : String :=
  (Text.stripBack? "_" stem).getD stem

/-- A name that ends in a low line is only written with one more. -/
theorem withoutLowLine_eq_iff {stem service : String} :
    withoutLowLine stem = service ↔
      stem = service ++ "_" ∨ stem = service ∧ ¬ "_".toList <:+ service.toList := by
  cases stripped : Text.stripBack? "_" stem with
  | some rest =>
      have ends := Text.stripBack?_eq_some_iff.mp stripped
      have lined : "_".toList <:+ stem.toList := by
        rw [ends, String.toList_append]
        exact List.suffix_append _ _
      simp only [withoutLowLine, stripped, Option.getD_some]
      constructor
      · intro same
        exact .inl (same ▸ ends)
      · intro written
        cases written with
        | inl written => exact (String.append_left_inj "_").mp (ends.symm.trans written)
        | inr written => exact absurd (written.1 ▸ lined) written.2
  | none =>
      have bare := Text.stripBack?_eq_none_iff.mp stripped
      simp only [withoutLowLine, stripped, Option.getD_none]
      constructor
      · intro same
        exact .inr ⟨same, same ▸ bare⟩
      · intro written
        cases written with
        | inl written => cases (Text.stripBack?_eq_some_iff.mpr written).symm.trans stripped
        | inr written => exact written.1

theorem withoutLowLine_eq_empty_iff {stem : String} :
    withoutLowLine stem = "" ↔ stem = "" ∨ stem = "_" := by
  rw [withoutLowLine_eq_iff, String.empty_append, or_comm, and_iff_left (by decide)]

/-- What a service is called, given the body that its topics are named after. Of a low line at
the end nobody knows whether it belongs to the ending, and without a name there is no service. -/
inductive Service : String → Option String → Prop
  | lined {service : String} (named : service ≠ "") : Service (service ++ "_") (some service)
  | bare {service : String} (named : service ≠ "") (bare : ¬ "_".toList <:+ service.toList) :
      Service service (some service)
  | nameless : Service "" none
  | lineAlone : Service "_" none

theorem service_withoutLowLine (body : String) :
    Service body (nonEmpty? (withoutLowLine body)) := by
  cases read : nonEmpty? (withoutLowLine body) with
  | some service =>
      obtain ⟨trimmed, named⟩ := nonEmpty?_eq_some_iff.mp read
      rcases withoutLowLine_eq_iff.mp trimmed with rfl | ⟨rfl, bare⟩
      · exact .lined named
      · exact .bare named bare
  | none =>
      have empty : withoutLowLine body = "" := by simpa [nonEmpty?] using read
      rcases withoutLowLine_eq_empty_iff.mp empty with rfl | rfl
      · exact .nameless
      · exact .lineAlone

end TopicName

namespace Demangler

open TopicName (withoutLowLine)

theorem serviceTopicName?_of_ne {c d : Channel} (apart : c ≠ d) (rest : String) :
    serviceTopicName? c (d.mark ++ "/" ++ rest) = none := by
  rw [serviceTopicName?, TopicName.unmarked?_of_ne apart, Option.bind_none]

theorem replyTopic_of_requestTopic {topic name : String}
    (request : requestTopic.apply topic = some name) : replyTopic.apply topic = none := by
  obtain ⟨rest, marked, _⟩ := Option.bind_eq_some_iff.mp request
  rw [TopicName.unmarked?_eq_some_iff.mp marked]
  exact serviceTopicName?_of_ne (by decide) rest

theorem serviceTopic_of_replyTopic {topic name : String}
    (reply : replyTopic.apply topic = some name) : serviceTopic.apply topic = some name := by
  simp [serviceTopic, reply]

theorem serviceTopic_of_requestTopic {topic name : String}
    (request : requestTopic.apply topic = some name) :
    serviceTopic.apply topic = some name := by
  simp [serviceTopic, replyTopic_of_requestTopic request, request]

theorem serviceTopic_eq_some_iff {topic name : String} :
    serviceTopic.apply topic = some name ↔
      requestTopic.apply topic = some name ∨ replyTopic.apply topic = some name := by
  constructor
  · intro read
    cases Option.or_eq_some_iff.mp read with
    | inl reply => exact .inr reply
    | inr request => exact .inl request.2
  · intro read
    cases read with
    | inl request => exact serviceTopic_of_requestTopic request
    | inr reply => exact serviceTopic_of_replyTopic reply

theorem serviceTopicName?_build (c : Channel) (stem : String) :
    serviceTopicName? c (c.mark ++ "/" ++ (stem ++ c.ending)) =
      nonEmpty? (withoutLowLine stem) := by
  have marked : TopicName.unmarked? c.mark (c.mark ++ "/" ++ (stem ++ c.ending)) =
      some (stem ++ c.ending) := TopicName.unmarked?_eq_some_iff.mpr rfl
  have ended : Text.stripBack? c.ending (stem ++ c.ending) = some stem :=
    Text.stripBack?_eq_some_iff.mpr rfl
  simp only [serviceTopicName?, marked, ended, Option.bind_some, withoutLowLine]

/-- The two ways in which the topic of a service is written. -/
theorem serviceTopicName?_eq_some_iff {c : Channel} {name service : String} :
    serviceTopicName? c name = some service ↔
      service ≠ "" ∧ (name = c.mark ++ "/" ++ service ++ ("_" ++ c.ending) ∨
        name = c.mark ++ "/" ++ service ++ c.ending ∧ ¬ "_".toList <:+ service.toList) := by
  constructor
  · intro read
    obtain ⟨topic, marked, read⟩ := Option.bind_eq_some_iff.mp read
    obtain ⟨stem, ended, read⟩ := Option.bind_eq_some_iff.mp read
    obtain ⟨trimmed, named⟩ := nonEmpty?_eq_some_iff.mp read
    rw [TopicName.unmarked?_eq_some_iff.mp marked, Text.stripBack?_eq_some_iff.mp ended]
    refine ⟨named, ?_⟩
    cases TopicName.withoutLowLine_eq_iff.mp trimmed with
    | inl lined => exact .inl (by rw [lined]; simp only [String.append_assoc])
    | inr bare => exact .inr ⟨by rw [bare.1]; simp only [String.append_assoc], bare.2⟩
  · intro written
    obtain ⟨named, written⟩ := written
    cases written with
    | inl lined =>
        have stem : name = c.mark ++ "/" ++ (service ++ "_" ++ c.ending) := by
          rw [lined]
          simp only [String.append_assoc]
        rw [stem, serviceTopicName?_build, nonEmpty?_eq_some_iff]
        exact ⟨TopicName.withoutLowLine_eq_iff.mpr (.inl rfl), named⟩
    | inr bare =>
        rw [bare.1, String.append_assoc, serviceTopicName?_build, nonEmpty?_eq_some_iff]
        exact ⟨TopicName.withoutLowLine_eq_iff.mpr (.inr ⟨rfl, bare.2⟩), named⟩

/-- The mark is that of messages, so the ending alone tells of a feedback. -/
theorem feedbackTopic_eq_some_iff {name action : String} :
    feedbackTopic.apply name = some action ↔
      action ≠ "" ∧ name = "rt/" ++ action ++ "/_action/feedback" := by
  simp only [feedbackTopic, topic, Option.bind_eq_some_iff, TopicName.unmarked?_eq_some_iff,
    Text.stripBack?_eq_some_iff, nonEmpty?_eq_some_iff]
  constructor
  · intro read
    obtain ⟨_, ⟨_, rfl, rfl⟩, rfl, named⟩ := read
    exact ⟨named, by rw [← String.append_assoc]; rfl⟩
  · intro written
    obtain ⟨named, rfl⟩ := written
    refine ⟨action, ⟨action ++ feedbackTopicEnding, ?_, rfl⟩, rfl, named⟩
    rw [← String.append_assoc]
    rfl

def ofChannel : Channel → Demangler
  | .message => topic
  | .request => requestTopic
  | .reply => replyTopic

theorem ofChannel_of_ne {c d : Channel} (apart : c ≠ d) (rest : String) :
    (ofChannel c).apply (d.mark ++ "/" ++ rest) = none := by
  cases c with
  | message => exact TopicName.unmarked?_of_ne apart rest
  | request | reply => exact serviceTopicName?_of_ne apart rest

theorem marked_of_ofChannel {c : Channel} {name ros : String}
    (read : (ofChannel c).apply name = some ros) : ∃ rest, name = c.mark ++ "/" ++ rest := by
  cases c with
  | message => exact ⟨ros, TopicName.unmarked?_eq_some_iff.mp read⟩
  | request | reply =>
      obtain ⟨rest, marked, _⟩ := Option.bind_eq_some_iff.mp read
      exact ⟨rest, TopicName.unmarked?_eq_some_iff.mp marked⟩

theorem ofChannel_exclusive {c d : Channel} (apart : c ≠ d) {name ros : String}
    (read : (ofChannel c).apply name = some ros) : (ofChannel d).apply name = none := by
  obtain ⟨rest, rfl⟩ := marked_of_ofChannel read
  exact ofChannel_of_ne apart.symm rest

theorem ofChannel_build_of_ne {c d : Channel} (apart : d ≠ c) {q : Qos.Profile}
    (conventional : q.rawNames = false) (ros : String) :
    (ofChannel d).apply (TopicName.build q c.mark ros c.ending) = none := by
  rw [TopicName.build_of_conventional conventional]
  exact ofChannel_of_ne apart _

theorem topic_build {q : Qos.Profile} (conventional : q.rawNames = false) {ros body : String}
    (bodied : TopicName.Body ros body) :
    topic.apply (TopicName.build q "rt" ros "") = some body := by
  rw [TopicName.build_of_conventional conventional, String.append_empty,
    TopicName.withoutSlash_eq_iff.mpr bodied]
  exact TopicName.unmarked?_eq_some_iff.mpr rfl

theorem service_build (c : Channel) {q : Qos.Profile} (conventional : q.rawNames = false)
    {ros body : String} (bodied : TopicName.Body ros body) :
    TopicName.Service body (serviceTopicName? c (TopicName.build q c.mark ros c.ending)) := by
  rw [TopicName.build_of_conventional conventional, serviceTopicName?_build,
    TopicName.withoutSlash_eq_iff.mpr bodied]
  exact TopicName.service_withoutLowLine body

/-- What is read as the topic of a message, a request, a reply or a feedback, and that the
names which are built for the first three are read as just that. -/
theorem topics_read_iff (name ros body : String) (q : Qos.Profile)
    (conventional : q.rawNames = false) (bodied : TopicName.Body ros body) :
    (∀ s, topic.apply name = some s ↔ name = "rt/" ++ s) ∧
      (∀ s, requestTopic.apply name = some s ↔ s ≠ "" ∧
        (name = "rq/" ++ s ++ "_Request" ∨
          name = "rq/" ++ s ++ "Request" ∧ ¬ "_".toList <:+ s.toList)) ∧
      (∀ s, replyTopic.apply name = some s ↔ s ≠ "" ∧
        (name = "rr/" ++ s ++ "_Reply" ∨
          name = "rr/" ++ s ++ "Reply" ∧ ¬ "_".toList <:+ s.toList)) ∧
      (∀ s, feedbackTopic.apply name = some s ↔
        s ≠ "" ∧ name = "rt/" ++ s ++ "/_action/feedback") ∧
      (∀ c d s, c ≠ d → (ofChannel c).apply name = some s →
        (ofChannel d).apply name = none) ∧
      (∀ s, serviceTopic.apply name = some s ↔
        requestTopic.apply name = some s ∨ replyTopic.apply name = some s) ∧
      topic.apply (TopicName.build q "rt" ros "") = some body ∧
      TopicName.Service body (requestTopic.apply (TopicName.build q "rq" ros "Request")) ∧
      TopicName.Service body (replyTopic.apply (TopicName.build q "rr" ros "Reply")) ∧
      ∀ c d, d ≠ c → (ofChannel d).apply (TopicName.build q c.mark ros c.ending) = none :=
  ⟨fun _ => TopicName.unmarked?_eq_some_iff, fun _ => serviceTopicName?_eq_some_iff,
    fun _ => serviceTopicName?_eq_some_iff, fun _ => feedbackTopic_eq_some_iff,
    fun _ _ _ apart read => ofChannel_exclusive apart read, fun _ => serviceTopic_eq_some_iff,
    topic_build conventional bodied, service_build .request conventional bodied,
    service_build .reply conventional bodied,
    fun _ _ apart => ofChannel_build_of_ne apart conventional ros⟩

/-- The ending of a request may also be what the service is called. -/
theorem topics_read_iff_repeated_ending :
    let q : Qos.Profile := {}
    let built := TopicName.build q "rq" "/RequestRequest_" "Request"
    q.rawNames = false ∧ TopicName.Body "/RequestRequest_" "RequestRequest_" ∧
      requestTopic.apply "rq/Request_Request" = some "Request" ∧
      topic.apply "rq/Request_Request" = none ∧
      serviceTopic.apply "rq/Request_Request" = some "Request" ∧
      built = "rq/RequestRequest_Request" ∧
      TopicName.Service "RequestRequest_" (requestTopic.apply built) ∧
      requestTopic.apply built = some "RequestRequest" := by
  intro q built
  have bodied : TopicName.Body "/RequestRequest_" "RequestRequest_" := .slashed "RequestRequest_"
  obtain ⟨_, request, _, _, exclusive, service, _, serves, _⟩ :=
    topics_read_iff "rq/Request_Request" "/RequestRequest_" "RequestRequest_" q rfl bodied
  have read : requestTopic.apply "rq/Request_Request" = some "Request" :=
    (request "Request").mpr ⟨by decide, .inl (by decide)⟩
  exact ⟨rfl, bodied, read, exclusive .request .message "Request" (by decide) read,
    (service "Request").mpr (.inl read), by decide, serves, by decide⟩

end Demangler

end RosMiddleware
