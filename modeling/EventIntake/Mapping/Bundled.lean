/-
The mapping tables that come with the program, one profile for each format that needs one and
one base that the databases share.
-/
import EventIntake.Mapping.Profile

namespace EventIntake.Bundled

/-- A row that takes a value as it is. -/
def move (source target : String) : Value :=
  .record [("source_path", .string source), ("target_path", .string target)]

/-- A row whose source should be there. -/
def need (source target : String) : Value :=
  .record [("source_path", .string source), ("target_path", .string target),
    ("required", .bool true)]

/-- A row that transforms its value. -/
def change (source target transformation : String) : Value :=
  .record [("source_path", .string source), ("target_path", .string target),
    ("transformation", .string transformation)]

/-- The chat completion format. -/
def chatRows : List Value := [
  -- request
  need "model" "model",
  need "messages" "messages",
  move "temperature" "parameters.temperature",
  move "max_tokens" "parameters.max_tokens",
  move "top_p" "parameters.top_p",
  move "stop" "parameters.stop_sequences",
  move "stream" "parameters.stream",
  move "tools" "tools",
  move "functions" "functions",
  -- response
  move "id" "response.id",
  move "object" "response.object",
  change "created" "response.created" "to_iso_date",
  move "choices" "response.choices",
  move "usage.prompt_tokens" "response.usage.prompt_tokens",
  move "usage.completion_tokens" "response.usage.completion_tokens",
  move "usage.total_tokens" "response.usage.total_tokens",
  -- error
  move "error.message" "error.message",
  move "error.type" "error.type",
  move "error.code" "error.code"]

/-- The hosted chat completion format: what it adds are content filters. -/
def hostedChatRows : List Value := [
  move "prompt_filter_results" "azure.content_filter.prompt",
  move "choices.0.content_filter_results" "azure.content_filter.completion"]

/-- The message format with content blocks. -/
def messageRows : List Value := [
  -- request
  need "model" "model",
  need "messages" "messages",
  move "system" "system_message",
  need "max_tokens" "parameters.max_tokens",
  move "temperature" "parameters.temperature",
  move "top_p" "parameters.top_p",
  move "top_k" "parameters.top_k",
  move "stop_sequences" "parameters.stop_sequences",
  move "tools" "tools",
  -- response
  move "id" "response.id",
  move "type" "response.type",
  move "role" "response.role",
  move "content" "response.content",
  move "stop_reason" "response.stop_reason",
  move "usage.input_tokens" "response.usage.prompt_tokens",
  move "usage.output_tokens" "response.usage.completion_tokens",
  -- error
  move "error.message" "error.message",
  move "error.type" "error.type"]

/-- The format with candidates. -/
def candidateRows : List Value := [
  -- request
  need "contents" "messages",
  move "generationConfig.temperature" "parameters.temperature",
  move "generationConfig.maxOutputTokens" "parameters.max_tokens",
  move "generationConfig.topP" "parameters.top_p",
  move "generationConfig.topK" "parameters.top_k",
  move "generationConfig.stopSequences" "parameters.stop_sequences",
  move "tools" "tools",
  -- response
  move "candidates" "response.choices",
  move "usageMetadata.promptTokenCount" "response.usage.prompt_tokens",
  move "usageMetadata.candidatesTokenCount" "response.usage.completion_tokens",
  move "usageMetadata.totalTokenCount" "response.usage.total_tokens",
  -- error
  move "error.message" "error.message",
  move "error.code" "error.code"]

/-- Hosted models: content blocks, results and generations. -/
def hostedModelRows : List Value := [
  -- anthropic on bedrock
  move "messages" "messages",
  move "anthropic_version" "parameters.anthropic_version",
  move "max_tokens" "parameters.max_tokens",
  move "temperature" "parameters.temperature",
  move "system" "system_message",
  -- response
  move "id" "response.id",
  move "content" "response.content",
  move "stop_reason" "response.stop_reason",
  move "usage.input_tokens" "response.usage.prompt_tokens",
  move "usage.output_tokens" "response.usage.completion_tokens",
  -- titan / llama
  move "results" "response.results",
  move "generation" "response.generation",
  move "prompt_token_count" "response.usage.prompt_tokens",
  move "generation_token_count" "response.usage.completion_tokens",
  -- error
  move "message" "error.message",
  move "__type" "error.type"]

def repositoryRows : List Value := [
  move "action" "event.action",
  move "repository.id" "repository.id",
  move "repository.name" "repository.name",
  move "repository.full_name" "repository.full_name",
  move "repository.owner.login" "repository.owner",
  move "sender.id" "sender.id",
  move "sender.login" "sender.login",
  move "sender.type" "sender.type",
  move "installation.id" "installation.id",
  -- pull request
  move "pull_request.id" "pull_request.id",
  move "pull_request.number" "pull_request.number",
  move "pull_request.title" "pull_request.title",
  move "pull_request.state" "pull_request.state",
  move "pull_request.merged" "pull_request.merged",
  -- push
  move "ref" "push.ref",
  move "before" "push.before",
  move "after" "push.after",
  move "commits" "push.commits",
  -- issues
  move "issue.id" "issue.id",
  move "issue.number" "issue.number",
  move "issue.title" "issue.title",
  move "issue.state" "issue.state"]

/-- Payment webhooks: common fields of the resource are written over its copy. -/
def paymentRows : List Value := [
  need "id" "event.id",
  move "object" "event.object",
  need "type" "event.type",
  change "created" "event.created" "to_iso_date",
  move "livemode" "event.livemode",
  move "api_version" "event.api_version",
  move "data.object" "resource",
  move "data.previous_attributes" "previous_attributes",
  -- common resource fields, written over the copied object
  move "data.object.id" "resource.id",
  move "data.object.object" "resource.type",
  move "data.object.amount" "resource.amount",
  move "data.object.currency" "resource.currency",
  move "data.object.status" "resource.status",
  move "data.object.customer" "resource.customer_id"]

def messengerRows : List Value := [
  move "type" "event.type",
  move "token" "event.token",
  move "team_id" "team.id",
  move "api_app_id" "app.id",
  move "event.type" "event.event_type",
  move "event.user" "event.user_id",
  move "event.channel" "event.channel_id",
  move "event.text" "event.text",
  move "event.ts" "event.timestamp",
  move "event_id" "event.id",
  change "event_time" "event.time" "to_iso_date",
  -- slash commands
  move "command" "command.name",
  move "text" "command.text",
  move "user_id" "user.id",
  move "user_name" "user.name",
  move "channel_id" "channel.id",
  move "channel_name" "channel.name"]

/-- Webhooks of any sender. -/
def anyWebhookRows : List Value := [
  move "id" "event.id",
  move "event_id" "event.id",
  move "type" "event.type",
  move "event_type" "event.type",
  move "event" "event.type",
  move "action" "event.action",
  move "timestamp" "event.timestamp",
  move "created_at" "event.created_at",
  move "data" "data",
  move "payload" "data",
  move "source" "source",
  move "user_id" "user.id",
  move "account_id" "account.id"]

/-- Change captures with a header, and queries. -/
def changeHeaderRows : List Value := [
  -- change data capture
  move "schema" "event.schema_id",
  move "event.replayId" "event.replay_id",
  move "payload.ChangeEventHeader.entityName" "record.entity",
  move "payload.ChangeEventHeader.recordIds" "record.ids",
  change "payload.ChangeEventHeader.changeType" "change.type" "to_lowercase",
  move "payload.ChangeEventHeader.changeOrigin" "change.origin",
  move "payload.ChangeEventHeader.changedFields" "change.changed_fields",
  change "payload.ChangeEventHeader.commitTimestamp" "change.committed_at" "to_iso_date",
  move "payload.ChangeEventHeader.commitUser" "change.user_id",
  move "payload.ChangeEventHeader.transactionKey" "change.transaction_key",
  move "payload.ChangeEventHeader.sequenceNumber" "change.sequence_number",
  -- soql query
  move "totalSize" "query.total_size",
  move "done" "query.done",
  move "records" "query.records",
  move "nextRecordsUrl" "query.next_records_url",
  -- error
  move "errorCode" "error.code",
  move "message" "error.message"]

/-- Cloud events, and query results below `d` or under `value`. -/
def cloudEventRows : List Value := [
  -- event mesh (cloudevents)
  move "specversion" "event.spec_version",
  move "id" "event.id",
  move "type" "event.type",
  move "source" "event.source",
  change "time" "event.time" "to_iso_date",
  move "datacontenttype" "event.content_type",
  move "data" "record",
  -- odata
  move "d.results" "query.records",
  change "d.__count" "query.total_size" "to_number",
  move "d.__next" "query.next_link",
  move "value" "query.records",
  -- error
  move "error.code" "error.code",
  move "error.message.value" "error.message"]

/-- Execution messages, and queries. -/
def executionRows : List Value := [
  -- dataverse webhook execution context
  change "MessageName" "change.type" "to_lowercase",
  move "PrimaryEntityName" "record.entity",
  move "PrimaryEntityId" "record.id",
  move "UserId" "change.user_id",
  move "InitiatingUserId" "change.initiating_user_id",
  move "CorrelationId" "change.correlation_id",
  move "Depth" "change.depth",
  move "Stage" "change.stage",
  move "OperationCreatedOn" "change.created_on",
  move "InputParameters" "change.input_parameters",
  move "PreEntityImages" "change.pre_images",
  move "PostEntityImages" "change.post_images",
  move "OrganizationId" "organization.id",
  move "OrganizationName" "organization.name",
  -- web api query
  move "value" "query.records",
  -- error
  move "error.code" "error.code",
  move "error.message" "error.message"]

/-- What all databases share. -/
def databaseRows : List Value := [
  -- query result
  move "queryId" "query.id",
  move "queryType" "query.type",
  move "status" "query.status",
  move "metadata.executionTimeMs" "query.execution_time_ms",
  move "rows" "result.rows",
  move "rowCount" "result.row_count",
  move "metadata.columns" "result.columns",
  move "metadata.truncated" "result.truncated",
  -- connection event
  change "event" "connection.event" "to_lowercase",
  move "database" "connection.database",
  move "user" "connection.user",
  move "client_addr" "connection.client_address",
  change "timestamp" "connection.timestamp" "to_iso_date",
  -- error
  move "error.code" "error.code",
  move "error.message" "error.message"]

/-- What one database adds. -/
def postgresRows : List Value := [
  move "backend_pid" "connection.pid",
  move "application_name" "connection.application",
  move "sqlstate" "error.code"]

/-- What another database adds. -/
def mysqlRows : List Value := [
  move "thread_id" "connection.thread_id",
  move "host" "connection.client_address",
  move "errno" "error.code"]

/-- What a document database adds. -/
def mongodbRows : List Value := [
  move "cursor.id" "result.cursor_id",
  move "cursor.ns" "query.namespace",
  move "cursor.firstBatch" "result.rows",
  move "cursor.nextBatch" "result.rows",
  move "ok" "query.ok",
  move "connectionId" "connection.id",
  move "errmsg" "error.message",
  move "code" "error.code",
  move "codeName" "error.type"]

/-- A profile with rows of its own. -/
def profile (name : String) (rows : List Value) : Scalar × Value :=
  (.string name, .record [("mappings", .list rows)])

/-- A profile that extends another one. -/
def extension (name base : String) (rows : List Value) : Scalar × Value :=
  (.string name, .record [("extends", .string base), ("mappings", .list rows)])

def profiles : Profiles := [
  profile "openai_api" chatRows,
  extension "azure_openai_api" "openai_api" hostedChatRows,
  profile "anthropic_api" messageRows,
  profile "google_ai_api" candidateRows,
  profile "aws_bedrock_api" hostedModelRows,
  profile "webhook_github" repositoryRows,
  profile "webhook_stripe" paymentRows,
  profile "webhook_slack" messengerRows,
  profile "webhook_generic" anyWebhookRows,
  profile "erp_salesforce" changeHeaderRows,
  profile "erp_sap" cloudEventRows,
  profile "erp_dynamics" executionRows,
  profile "_database" databaseRows,
  extension "database_postgres" "_database" postgresRows,
  extension "database_mysql" "_database" mysqlRows,
  extension "database_mongodb" "_database" mongodbRows]

end EventIntake.Bundled
