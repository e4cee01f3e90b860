import PacketDivert.Main
import PacketDivert.Proofs.Firewall.CallOrder
import PacketDivert.Proofs.Firewall.CompletePasses
import PacketDivert.Proofs.Firewall.Contents
import PacketDivert.Proofs.Firewall.FailureReports
import PacketDivert.Proofs.Firewall.Faults
import PacketDivert.Proofs.Firewall.ForeignRules
import PacketDivert.Proofs.Firewall.Moments
import PacketDivert.Proofs.Firewall.Retries
import PacketDivert.Proofs.Firewall.RuleKeepers
import PacketDivert.Proofs.Firewall.RuleOrder
import PacketDivert.Proofs.Firewall.TableNames
import PacketDivert.Proofs.Firewall.TableStore
import PacketDivert.Proofs.Firewall.ToolCalls
import PacketDivert.Proofs.Firewall.ToolSelection
import PacketDivert.Proofs.Firewall.ToolTables
import PacketDivert.Proofs.Netlink.Acknowledgements
import PacketDivert.Proofs.Netlink.AttributeCodec
import PacketDivert.Proofs.Netlink.AttributeGrammar
import PacketDivert.Proofs.Netlink.AttributeRewriting
import PacketDivert.Proofs.Netlink.AttributeTrees
import PacketDivert.Proofs.Netlink.CheckedReading
import PacketDivert.Proofs.Netlink.CheckedWords
import PacketDivert.Proofs.Netlink.ConnectionIds
import PacketDivert.Proofs.Netlink.CutDatagrams
import PacketDivert.Proofs.Netlink.Datagrams
import PacketDivert.Proofs.Netlink.FirstFault
import PacketDivert.Proofs.Netlink.MessageReading
import PacketDivert.Proofs.Netlink.MessageNumbers
import PacketDivert.Proofs.Netlink.MessageSequences
import PacketDivert.Proofs.Netlink.QueueSetup
import PacketDivert.Proofs.Netlink.SetupStages
import PacketDivert.Proofs.Rules.DialectAgreement
import PacketDivert.Proofs.Rules.IptablesClauses
import PacketDivert.Proofs.Rules.IptablesReading
import PacketDivert.Proofs.Rules.NftablesReading
import PacketDivert.Proofs.Rules.NftablesScript
import PacketDivert.Proofs.Rules.NftablesTables
import PacketDivert.Proofs.Rules.NftablesTokens
import PacketDivert.Proofs.Rules.RuleTexts
import PacketDivert.Proofs.Session.DatagramFaults
import PacketDivert.Proofs.Session.Deeds
import PacketDivert.Proofs.Session.Dispositions
import PacketDivert.Proofs.Session.Ensemble
import PacketDivert.Proofs.Session.Interleaving
import PacketDivert.Proofs.Session.OversizedPackets
import PacketDivert.Proofs.Session.Restoration
import PacketDivert.Proofs.Session.RuleLifecycle
import PacketDivert.Proofs.Session.Shutdown
import PacketDivert.Proofs.Session.Station
import PacketDivert.Proofs.Session.StreamVerdicts
import PacketDivert.Proofs.Session.VerdictMessages
import PacketDivert.Proofs.Settings.Acceptance
import PacketDivert.Proofs.Settings.Assignments
import PacketDivert.Proofs.Settings.Documents
import PacketDivert.Proofs.Settings.Fields
import PacketDivert.Proofs.Settings.JsonText
import PacketDivert.Proofs.Settings.Literals
import PacketDivert.Proofs.Settings.Loading
import PacketDivert.Proofs.Settings.Numerals
import PacketDivert.Proofs.Settings.RoundTrip
import PacketDivert.Proofs.Settings.Spelling
import PacketDivert.Proofs.Settings.Values
import PacketDivert.Proofs.Text.Decoding
import PacketDivert.Proofs.Text.Encoding
import PacketDivert.Session.Bench
