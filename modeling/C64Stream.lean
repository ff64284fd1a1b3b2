import C64Stream.Network.BufferOrder
import C64Stream.Script.Calls
import C64Stream.Script.ForStack
import C64Stream.Script.Suffixes
import C64Stream.Stream.HandoverLaws
import C64Stream.Stream.RetryLaws
import C64Stream.Record.AudioFile
import C64Stream.Record.EarlierRecordings
import C64Stream.Automation.PlaylistLaws
import C64Stream.Automation.ItemsLaws
import C64Stream.Automation.SonglengthsLaws
import C64Stream.Automation.FolderScanLaws
import C64Stream.Automation.Md5Laws
import C64Stream.Input.StuckInputs
import C64Stream.Stream.CommandTargets
import C64Stream.Stream.StrandedDevices
import C64Stream.Stream.QueuedStops
import C64Stream.Device.ScanOrders
import C64Stream.Device.UltimateErrorLaws
import C64Stream.Palette.FollowLaws
import C64Stream.Palette.CachePaths
import C64Stream.Palette.VplLaws
import C64Stream.Network.PacketFifoLaws
import C64Stream.Network.HeldPicture
import C64Stream.Settings.EffectLaws
import C64Stream.Settings.PaletteLaws
import C64Stream.Script.ScriptStops
import C64Stream.Script.DebuggingLaws
import C64Stream.Script.StringLiterals
import C64Stream.Script.FailedCompiles
import C64Stream.Network.FileListingLaws
import C64Stream.Audio.Concealment
import C64Stream.Network.DelayLaws
import C64Stream.Palette.ShippedColors
import C64Stream.Stream.Stragglers
import C64Stream.Stream.AvSyncLaws
import C64Stream.Video.AfterglowLaws
import C64Stream.Settings.PresetFileLaws
import C64Stream.Input.KeyIdentifierLaws
import C64Stream.Script.StatementArgumentLaws
import C64Stream.Script.WallclockLaws
import C64Stream.Script.StoringInstructionLaws
import C64Stream.Script.IsolatedCalls
import C64Stream.Script.Preservation
