import NetworkOperator.Support.GoMap
import NetworkOperator.State.Manager
import NetworkOperator.State.CniPlugins
import NetworkOperator.Api.V1alpha1
import NetworkOperator.Upgrade.DrainManager
import NetworkOperator.Upgrade.Runs
import NetworkOperator.Validator.Field
import NetworkOperator.Validator.Resources
import NetworkOperator.Validator.Regex
import NetworkOperator.Validator.RegexSpec
import NetworkOperator.Validator.Languages
import NetworkOperator.Validator.DevicePlugin
import NetworkOperator.Validator.Policy
import NetworkOperator.Validator.Safety
import NetworkOperator.Validator.ErrorPaths
import NetworkOperator.Validator.InfiniBand
import NetworkOperator.Validator.Admission
import NetworkOperator.Validator.Webhook
import NetworkOperator.Validator.WebhookRuns
import NetworkOperator.Validator.WebhookCopy
