import GridBeans.Main
import GridBeans.Operations
import GridBeans.Settings
import GridBeans.Tool
import GridBeans.Proofs.Consistency
import GridBeans.Proofs.Generation.Registry
import GridBeans.Proofs.Generation.WellFormed
import GridBeans.Proofs.Generation.Sources
import GridBeans.Proofs.Generation.Beans
import GridBeans.Proofs.Generation.Template
import GridBeans.Proofs.Generation.Tidy
import GridBeans.Proofs.Generation.Declared
import GridBeans.Proofs.Properties.Keys
import GridBeans.Proofs.Generation.Credentials
import GridBeans.Proofs.Generation.Outlined
import GridBeans.Proofs.Generation.Groups
import GridBeans.Proofs.Generation.Fragments
import GridBeans.Proofs.Generation.ClientNear
import GridBeans.Proofs.Generation.BeanIds
import GridBeans.Proofs.Generation.Blocks
import GridBeans.Proofs.Effect
import GridBeans.Proofs.Generation.Conformed
import GridBeans.Proofs.Rules
import GridBeans.Proofs.Generation.Spacing
import GridBeans.Proofs.Qualified
import GridBeans.Proofs.Generation.ClassNames
import GridBeans.Proofs.Generation.Presence
import GridBeans.Proofs.Generation.Records
import GridBeans.Proofs.Generation.TypeContent
import GridBeans.Proofs.Generation.TypeList
import GridBeans.Proofs.Generation.AllOrNothing
import GridBeans.Proofs.Generation.StoreEffects
import GridBeans.Proofs.Generation.PropertyBag
import GridBeans.Proofs.Generation.EventExpansion
import GridBeans.Proofs.Messages
import GridBeans.Proofs.Markup.History
import GridBeans.Proofs.Descriptions
import GridBeans.Proofs.Reference.Offers
import GridBeans.Proofs.Generation.HeaderComment
